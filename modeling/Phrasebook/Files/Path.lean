import Phrasebook.Text.Fields

/-!
# Paths

A path is written with `/` between its parts.  Empty parts and the part `.` say nothing and are
left out; `..` is kept.

* `pathParts` — the parts of a written path.
* `splitExtension` — a file name as stem and extension.
* `Path` — a written path that may be rooted.
* `isLongPath`, `hasNul` — written paths that no file system takes.
-/

namespace Phrasebook

open Phrasebook.Text

/-- The parts of a written path that say something. -/
def pathParts (written : String) : List String :=
  (fields '/' written).filter fun part => part ≠ "" ∧ part ≠ "."

/-- A file name as stem and extension.  The extension starts with the last dot, unless that is the
first or the last character of the name. -/
def splitExtensionChars (name : List Char) : List Char × List Char :=
  let ext := (name.reverse.takeWhile (· ≠ '.')).reverse
  let stem := ((name.reverse.dropWhile (· ≠ '.')).drop 1).reverse
  if stem.isEmpty || ext.isEmpty then (name, []) else (stem, '.' :: ext)

/-- A file name as stem and extension. -/
def splitExtension (name : String) : String × String :=
  let p := splitExtensionChars name.toList
  (String.ofList p.1, String.ofList p.2)

/-- The most bytes that a written path may have. -/
def maxPathBytes : Nat := 4095

/-- A written path that is too long for any file system. -/
def isLongPath (written : String) : Bool :=
  written.utf8ByteSize > maxPathBytes

/-- A written path with a NUL in it.  Nothing can be there. -/
def hasNul (written : String) : Bool :=
  written.toList.contains '\x00'

/-- A path as it is given on the command line. -/
structure Path where
  rooted : Bool
  parts : List String
  deriving DecidableEq, Repr, Inhabited

namespace Path

/-- Reads a written path. -/
def ofString (written : String) : Path where
  rooted := written.startsWith "/"
  parts := pathParts written

/-- The path as it is written; the working folder is `.`. -/
def toString (p : Path) : String :=
  if p.rooted then "/" ++ join "/" p.parts
  else if p.parts.isEmpty then "."
  else join "/" p.parts

/-- The path of something further inside the folder. -/
def append (p : Path) (parts : List String) : Path :=
  { p with parts := p.parts ++ parts }

/-- The path of something in the folder. -/
def child (p : Path) (name : String) : Path :=
  p.append [name]

/-- Whether the path is too long to be looked at. -/
def isLong (p : Path) : Bool :=
  isLongPath p.toString

end Path

end Phrasebook
