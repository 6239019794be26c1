import Phrasebook.Files.Tree
import Phrasebook.Locale.Location

/-!
# Finding the locale files of a project

* `isSkippedFolder` — folders of build output and hidden folders.
* `isCandidate` — whether a file is one of a project's locale files, by its place.
* `discover` — the locale files of a project.
* `outOfReach` — whatever lies so deep in a project that its path is too long.
-/

namespace Phrasebook.Command

open Phrasebook.Text

/-- A folder whose files do not count: build output, which may hold copies, or hidden. -/
def isSkippedFolder (name : String) : Bool :=
  ["bin", "obj"].contains (lowerAscii name) || name.startsWith "."

/-- Whether a file may be a locale file: it has the extension and lies in an `i18n` folder, and
in none that does not count. -/
def isCandidate (relative : Place) : Bool :=
  match relative.reverse with
  | [] => false
  | name :: folders =>
    hasLocaleExtension name && folders.any (lowerAscii · == i18nFolder)
      && !folders.any isSkippedFolder

/-- The way from a folder to a place inside it. -/
def relativeTo (folder : Place) (p : Place) : Option Place :=
  if folder.isPrefixOf p then some (p.drop folder.length) else none

/-- The paths of what lies in a project, if they are too long to be looked at. -/
def outOfReach (t : FileTree) (written : Path) (project : Place) : List Path :=
  let inside := t.nodes.names.filterMap (relativeTo project)
  (inside.map written.append).filter (·.isLong)

/-- The locale files of a project, as paths from its folder, sorted by code points. -/
def discover (t : FileTree) (project : Place) : List String :=
  let relative := t.files.filterMap fun f => (relativeTo project f.1).filter isCandidate
  (relative.map (join "/")).mergeSort fun a b => decide (a ≤ b)

end Phrasebook.Command
