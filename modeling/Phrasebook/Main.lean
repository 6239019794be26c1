import Phrasebook.Command.Run
import Phrasebook.Log.Render

/-!
# The program

The program takes a snapshot of the folders that the command line names, lets `Command.run` decide
what to do, and does it.
-/

namespace Phrasebook.Shell

open Phrasebook.Command Phrasebook.Log Phrasebook.Text

/-- Whether the content of a file can matter. -/
def isRead (name : String) : Bool :=
  name = ".env" || hasLocaleExtension name

/-- The path of a place. -/
def pathOf (place : Place) : String :=
  "/" ++ join "/" place

/-- Adds what is at a place, if there is anything, but not what a folder holds.  Of a file whose
content does not matter only its presence is kept. -/
def probe (tree : FileTree) (place : Place) : IO FileTree := do
  let found := (← IO.currentDir) / pathOf place
  if ← found.isDir then
    return if tree.isFolder place then tree else tree.add place .folder
  else if ← found.pathExists then
    let content ← if isRead (place.getLastD "") then IO.FS.readBinFile found else pure .empty
    return tree.add place (.file content)
  else return tree

/-- Adds what is at a place and all that a folder holds. -/
partial def walk (tree : FileTree) (place : Place) : IO FileTree := do
  let mut tree ← probe tree place
  let found := (← IO.currentDir) / pathOf place
  if ← found.isDir then
    for entry in ← found.readDir do
      tree ← walk tree (place ++ [entry.fileName])
  return tree

/-- Adds what is at a place and at each folder on the way to it. -/
def probeAll (tree : FileTree) (start : Place) (parts : List String) : IO FileTree := do
  let mut tree := tree
  for n in List.range (parts.length + 1) do
    tree ← probe tree (placeFrom start (parts.take n))
  return tree

/-- Adds what a written path leads to, and all that is on the way to it or inside it. -/
def survey (tree : FileTree) (workingFolder : Place) (written : String) : IO FileTree := do
  let path := Path.ofString written
  let start := if path.rooted then [] else workingFolder
  walk (← probeAll tree start path.parts) (placeFrom start path.parts)

/-- A snapshot of the places that a command line names. -/
def snapshot (workingFolder : Place) (arguments : List String) : IO FileTree := do
  let tree ← probeAll .empty [] (workingFolder ++ [".env"])
  match Request.ofArguments arguments with
  | .ok (.generate _ rest) =>
    match GenerateRequest.ofArguments rest with
    | .ok (some r) =>
      let mut tree := tree
      for written in r.operands ++ r.output.toList do
        tree ← survey tree workingFolder written
      return tree
    | _ => return tree
  | _ => return tree

/-- The names whose values settings may ask for. -/
def settingNames (tree : FileTree) (workingFolder : Place) : List String :=
  let known := ["LOG_LEVEL", "LOG_RENDERER", sectionName] ++ (default : BuildProperties).toList.map (·.1)
  match tree.content? (workingFolder ++ [".env"]) with
  | none => known
  | some bytes => known ++ EnvFile.references ((String.fromUTF8? bytes).getD "").toList

/-- The values that the environment gives some names. -/
def environmentOf (names : List String) : IO (List (String × String)) := do
  let values ← names.mapM fun name => do return (← IO.getEnv name).map (name, ·)
  return values.filterMap id

/-- Makes a change. -/
def perform : Change → IO Unit
  | .makeFolder place => IO.FS.createDirAll (pathOf place)
  | .write place content => IO.FS.writeBinFile (pathOf place) content
  | .remove place => IO.FS.removeFile (pathOf place)

/-- Why there are no settings, in words. -/
def settingsText : SettingsFault → String
  | .unknownRenderer => "the settings are not valid: LOG_RENDERER must be 'console' or 'json'"
  | .malformed => "the settings are not valid: the value of " ++ sectionName ++ " isn't JSON"
  | .tooDeep => "the settings are not valid: the value of " ++ sectionName ++ " is nested too deeply"

/-- Why a run ended before its end, in words. -/
def escapeText : Escape → String
  | .noLevel name => name.message
  | .noSettings fault => settingsText fault
  | .undecodableSettings => "the file .env isn't valid UTF-8"
  | .targetIsFolder => "there is a folder in place of the generated file"
  | .fileOnTheWay => "there is a file on the way to the output folder"
  | .fileInTheWay => "there is a file in place of the output folder"
  | .nameTooLong => "a file name or path is too long"
  | .manyFolders => "the output folder is too many folders deep"
  | .nulInPath => "a path has a NUL in it"
  | .notEncodable => "the class has half of a character in it and can't be encoded"

/-- Does what a run is to do. -/
def carryOut (renderer : Renderer) (o : Outcome) : IO UInt32 := do
  for r in o.records do
    IO.eprintln (match renderer with
      | .console => r.consoleLine
      | .json => r.jsonLine)
  for line in o.diagnosticLines do
    IO.eprintln line
  for change in o.changes do
    perform change
  if let some e := o.escape then IO.eprintln ("Error: " ++ escapeText e)
  IO.print o.output
  return o.exitCode.toUInt32

end Phrasebook.Shell

open Phrasebook Phrasebook.Command Phrasebook.Shell in
/-- Runs the command line. -/
def main (arguments : List String) : IO UInt32 := do
  let workingFolder := pathParts (← IO.currentDir).toString
  let tree ← snapshot workingFolder arguments
  let values ← environmentOf (settingNames tree workingFolder)
  let host : Host := ⟨tree, workingFolder, fun name => values.lookup name⟩
  let (level, renderer) := match loadSettings host with
    | .ok s => (s.logLevel, s.logRenderer)
    | .error _ => (defaultLogLevel, .console)
  match run host level arguments with
  | .error e => do
    IO.eprintln ("Error: " ++ e.message)
    return 2
  | .ok o => carryOut renderer o
