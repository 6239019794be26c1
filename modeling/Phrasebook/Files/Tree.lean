import Phrasebook.Bindings

/-!
# Trees of files

* `Place`, `placeFrom` — a place in the tree, as the parts of the way from its root, and the place
  that a path leads to.
* `Node`, `FileTree` — folders and files at their places.
* `FileTree.find?`, `isFolder`, `isFile` — what is at a place.
* `FileTree.resolve?` — the place that a path leads to.
* `Change`, `FileTree.apply` — changes of a tree.
* `isLongName`, `FileTree.meetsLongName` — names that no folder takes, and paths with such a name.
* `Obstacle`, `FileTree.missingFolders` — the folders that have to be made on a path, and what may
  be in the way.
* `FileTree.WellFormed` — what holds of the tree of a file system.
-/

namespace Phrasebook

/-- A place in a tree: the parts of the way from its root. -/
abbrev Place := List String

/-- The place that the parts of a path lead to if all of them lead somewhere; `..` leads out of a
folder. -/
def placeFrom (start : Place) (parts : List String) : Place :=
  parts.foldl (fun place part => if part = ".." then place.dropLast else place ++ [part]) start

/-- What is at a place. -/
inductive Node where
  | folder
  | file (content : ByteArray)
  deriving Inhabited

/-- Folders and files at their places.  The root is always a folder. -/
structure FileTree where
  nodes : Bindings Place Node
  deriving Inhabited

/-- A change of a tree. -/
inductive Change where
  /-- A folder is made, unless it is there. -/
  | makeFolder (place : Place)
  /-- A file is written. -/
  | write (place : Place) (content : ByteArray)
  /-- A file is removed. -/
  | remove (place : Place)

/-- The most bytes that a name may have. -/
def maxNameBytes : Nat := 255

/-- A name that is too long for any folder. -/
def isLongName (name : String) : Bool :=
  name.utf8ByteSize > maxNameBytes

/-- The most parts that a path may have from the first missing folder on. -/
def maxMissing : Nat := 980

/-- What keeps folders from being made on a path. -/
inductive Obstacle where
  /-- A file is in the place of a folder. -/
  | file
  /-- A name is too long. -/
  | longName
  /-- There are too many parts from the first missing folder on. -/
  | manyMissing
  deriving DecidableEq, Repr

namespace FileTree

/-- Only the root is there. -/
def empty : FileTree := ⟨∅⟩

/-- What is at a place. -/
def find? (t : FileTree) (p : Place) : Option Node :=
  if p = [] then some .folder else t.nodes.get? p

/-- Whether there is a folder at a place. -/
def isFolder (t : FileTree) (p : Place) : Bool :=
  match t.find? p with
  | some .folder => true
  | _ => false

/-- Whether there is a file at a place. -/
def isFile (t : FileTree) (p : Place) : Bool :=
  match t.find? p with
  | some (.file _) => true
  | _ => false

/-- The content of the file at a place. -/
def content? (t : FileTree) (p : Place) : Option ByteArray :=
  match t.find? p with
  | some (.file content) => some content
  | _ => none

/-- The files of a tree. -/
def files (t : FileTree) : List (Place × ByteArray) :=
  t.nodes.toList.filterMap fun
    | (p, .file content) => some (p, content)
    | (_, .folder) => none

/-- The place that the parts of a path lead to.  All but the last of them lead through folders,
and `..` leads out of a folder. -/
def resolve? (t : FileTree) (start : Place) : List String → Option Place
  | [] => some start
  | part :: rest =>
    if !t.isFolder start then none
    else if part = ".." then t.resolve? start.dropLast rest
    else t.resolve? (start ++ [part]) rest

/-- Puts something at a place, where it takes the place of what was there. -/
def put (t : FileTree) (p : Place) (n : Node) : FileTree :=
  ⟨t.nodes.set p n⟩

/-- Makes a change. -/
def apply (t : FileTree) : Change → FileTree
  | .makeFolder p => if (t.find? p).isSome then t else t.put p .folder
  | .write p content => t.put p (.file content)
  | .remove p => ⟨t.nodes.erase p⟩

/-- Makes several changes, one after the other. -/
def applyAll (t : FileTree) (changes : List Change) : FileTree :=
  changes.foldl apply t

/-- Whether the parts of a path lead to a name that is too long, through folders that are there. -/
def meetsLongName (t : FileTree) (start : Place) : List String → Bool
  | [] => false
  | part :: rest =>
    if !t.isFolder start then false
    else if part = ".." then t.meetsLongName start.dropLast rest
    else isLongName part || t.meetsLongName (start ++ [part]) rest

/-- The folders that have to be made so that a path leads to a folder, in order, and the place of
that folder or what is in the way to it. -/
def missingFolders (t : FileTree) (start : Place) :
    List String → List Place × Except Obstacle Place
  | [] => ([], .ok start)
  | part :: rest =>
    if part = ".." then t.missingFolders start.dropLast rest
    else if isLongName part then ([], .error .longName)
    else
      let next := start ++ [part]
      match t.find? next with
      | some .folder => t.missingFolders next rest
      | some (.file _) => ([], .error .file)
      | none =>
        if rest.length < maxMissing then
          let others := t.missingFolders next rest
          (next :: others.1, others.2)
        else ([], .error .manyMissing)

/-- Adds something at a place, with the folders that lead there. -/
def add (t : FileTree) (p : Place) (n : Node) : FileTree :=
  let folders := (List.range p.length).map p.take
  (folders.foldl (fun t q => if (t.find? q).isSome then t else t.put q .folder) t).put p n

/-- A name that a folder can give to what it holds. -/
def isProperName (name : String) : Bool :=
  name ≠ "" && name ≠ "." && name ≠ ".." && !name.toList.contains '/'

/-- What holds of the tree of a file system: every place has proper names, and whatever is at a
place lies in a folder. -/
structure WellFormed (t : FileTree) : Prop where
  proper : ∀ p ∈ t.nodes.names, p ≠ [] ∧ ∀ name ∈ p, isProperName name = true
  inFolder : ∀ p ∈ t.nodes.names, t.isFolder p.dropLast = true

end FileTree

end Phrasebook
