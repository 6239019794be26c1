import Phrasebook.Entry
import Phrasebook.Locale.Location
import Phrasebook.Locale.Pairs
import Phrasebook.Pass.Step

/-!
# The catalog of a set of locale files

The files are read in order.  All of them have to fit one layout; those of the default locale
give the entries, and the others are only looked at for their place.

* `Catalog` — the entries of a set of files and the warnings about it.
* `Progress`, `Progress.addPair` — what has been read of it.
* `Catalog.readInTurn`, `Catalog.read` — the catalog of a list of files, or the diagnostic that
  there is none.
-/

namespace Phrasebook

open Phrasebook.Log

/-- The entries of a set of files, and a warning for every key that was there before. -/
structure Catalog where
  entries : List Entry
  warnings : List Diagnostic
  deriving DecidableEq, Repr

/-- What has been read: the layout of the files so far, entries and warnings. -/
structure Progress where
  layout : Option Layout
  entries : List Entry
  warnings : List Diagnostic

namespace Progress

/-- Nothing has been read. -/
def initial : Progress := ⟨none, [], []⟩

/-- Whether a key has an entry. -/
def hasKey (p : Progress) (key : Text) : Bool :=
  p.entries.any (·.key == key)

/-- Adds a key and its text, unless the key has an entry: then there is a warning. -/
def addPair (reserved : List String) (path : String) (p : Progress) (pair : Text × Text) :
    Progress :=
  if p.hasKey pair.1 then
    { p with warnings := p.warnings ++ [⟨.duplicateKey, [some pair.1, some path]⟩] }
  else
    let used := reserved ++ p.entries.map (·.method)
    { p with entries := p.entries ++ [Entry.ofText reserved used pair.1 pair.2] }

/-- Adds the keys and texts of a file. -/
def addPairs (reserved : List String) (path : String) (p : Progress)
    (pairs : List (Text × Text)) : Progress :=
  pairs.foldl (addPair reserved path) p

/-- Whether a file of this layout may follow. -/
def accepts (p : Progress) (layout : Layout) : Bool :=
  p.layout.all (· == layout)

end Progress

namespace Catalog

/-- The outcome when there are no more files. -/
def finish (p : Progress) : Step (Except Diagnostic Catalog) := do
  if p.entries.isEmpty then
    let kind := if p.layout.isSome then DiagnosticKind.noEntries else .noFiles
    Step.log (.nothingFound kind)
    return .error ⟨kind, []⟩
  else
    return .ok ⟨p.entries, p.warnings⟩

/-- Reads the rest of the files, from a turn on.  The first offence ends the reading. -/
def readFrom (reserved : List String) (load : Nat → Loader) :
    Progress → Nat → List String → Step (Except Diagnostic Catalog)
  | p, _, [] => finish p
  | p, turn, path :: rest =>
    match Location.ofPath? path with
    | none => do
      Step.log (.invalidLocation path)
      return .error ⟨.invalidLocation, [some path]⟩
    | some location =>
      if !p.accepts location.layout then do
        Step.log (.mixedLayouts path)
        return .error ⟨.mixedLayouts, []⟩
      else
        let p := { p with layout := some location.layout }
        if !location.isDefault then readFrom reserved load p (turn + 1) rest
        else do
          match ← Step.ask (.file turn path) (loadPairs (load turn) path) with
          | .error defect =>
            let blamed := defect.pathOf path
            Step.log (.unreadableFile blamed defect.reason)
            return .error ⟨.unreadableFile, [some blamed, some defect.reason]⟩
          | .ok pairs =>
            Step.log (.fileLoaded path pairs.length)
            readFrom reserved load (p.addPairs reserved path pairs) (turn + 1) rest

/-- The catalog of a list of files, or the diagnostic that there is none.  No method has one of
the reserved names, and each file is loaded as it is in its turn. -/
def readInTurn (reserved : List String) (load : Nat → Loader) (files : List String) :
    Step (Except Diagnostic Catalog) :=
  readFrom reserved load .initial 0 files

/-- The catalog of a list of files that are the same whenever they are loaded. -/
def read (reserved : List String) (load : Loader) (files : List String) :
    Step (Except Diagnostic Catalog) :=
  readInTurn reserved (fun _ => load) files

end Catalog

end Phrasebook
