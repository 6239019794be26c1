import Phrasebook.Command.Arguments
import Phrasebook.Command.Discovery
import Phrasebook.Command.Override
import Phrasebook.Pass.Generation
import Phrasebook.Settings.EnvFile
import Phrasebook.Settings.Settings
import Phrasebook.Text.Bytes
import Phrasebook.Text.Terminal

/-!
# Running the command

* `Host` — the files and the environment that a command runs in.
* `Escape` — what ends a run before its end.
* `Outcome` — everything that a run does.
* `runGenerate` — generates the class of a project and writes it.
* `run` — the outcome of a command line.
-/

namespace Phrasebook.Command

open Phrasebook.Log Phrasebook.Text

/-- The files and the environment that a command runs in. -/
structure Host where
  tree : FileTree
  workingFolder : Place
  environment : String → Option String

namespace Host

/-- Where a path starts. -/
def startOf (h : Host) (p : Path) : Place :=
  if p.rooted then [] else h.workingFolder

/-- The place that a path leads to from the working folder. -/
def resolve? (h : Host) (p : Path) : Option Place :=
  h.tree.resolve? (h.startOf p) p.parts

/-- What a path leads to. -/
def stat (h : Host) (p : Path) : Option Node :=
  if p.isLong then none else (h.resolve? p).bind h.tree.find?

/-- Whether a path cannot be looked at because it, or a name on it, is too long. -/
def meetsLong (h : Host) (p : Path) : Bool :=
  p.isLong || h.tree.meetsLongName (h.startOf p) p.parts

/-- The text of the environment file in the working folder, if there is one; inside, `none` if it
is not UTF-8. -/
def envFileText (h : Host) : Option (Option String) :=
  (h.tree.content? (h.workingFolder ++ [".env"])).map String.fromUTF8?

/-- Loads the files of a project. -/
def loader (h : Host) (project : Place) : Loader :=
  Loader.ofBytes fun path => h.tree.content? (project ++ pathParts path)

end Host

/-- What ends a run before its end. -/
inductive Escape where
  /-- The level that is asked for is none. -/
  | noLevel (name : NotALevel)
  /-- There are no settings. -/
  | noSettings (fault : SettingsFault)
  /-- The environment file is not UTF-8. -/
  | undecodableSettings
  /-- There is a folder where the class should be written. -/
  | targetIsFolder
  /-- A path leads through a file as if it were a folder. -/
  | fileOnTheWay
  /-- There is a file where a folder should be made. -/
  | fileInTheWay
  /-- A name, or the path to it, is too long for a file system. -/
  | nameTooLong
  /-- Too many folders would have to be made. -/
  | manyFolders
  /-- The path of the output folder has a NUL in it. -/
  | nulInPath
  /-- The source has half of a character in it and cannot be encoded. -/
  | notEncodable
  deriving DecidableEq, Repr

/-- Everything that a run does: the exit code, what it prints, the diagnostics that it shows, the
records of its log, and the changes that it makes.  The fault is the one that ended its pass. -/
structure Outcome where
  exitCode : Nat
  output : String
  diagnostics : List Diagnostic
  records : List Record
  changes : List Change
  fault : Option Fault
  escape : Option Escape

/-- The host after a run. -/
def Host.after (h : Host) (o : Outcome) : Host :=
  { h with tree := h.tree.applyAll o.changes }

/-- The outcome of printing a text. -/
def Outcome.print (text : String) : Outcome := ⟨0, text, [], [], [], none, none⟩

/-- The outcome of a run that ends early. -/
def Outcome.escaped (e : Escape) : Outcome := ⟨1, "", [], [], [], none, some e⟩

/-- The lines that show the diagnostics. -/
def Outcome.diagnosticLines (o : Outcome) : List String :=
  o.diagnostics.filterMap fun d => d.render.toOption.map shown

/-- Loads the settings from the environment and from the environment file. -/
def loadSettings (h : Host) : Except Escape Settings :=
  match h.envFileText with
  | some none => .error .undecodableSettings
  | text =>
    let file := EnvFile.read h.environment (text.join.getD "")
    (Settings.load ⟨∅, h.environment, file⟩).mapError .noSettings

/-- What is done with the outcome of a pass. -/
structure Delivery where
  output : String
  changes : List Change
  events : List Event
  escape : Option Escape

/-- A delivery that something ends before its end. -/
def Delivery.broken (changes : List Change) (e : Escape) : Delivery := ⟨"", changes, [], some e⟩

/-- Prints the source. -/
def printSource (source : Text) : Delivery :=
  match (printed source).toString? with
  | some output => ⟨output, [], [], none⟩
  | none => .broken [] .notEncodable

/-- What ends a run that should make a folder where it cannot be made.  What is said of a file
hangs on whether folders in front of it had to be made. -/
def escapeOf (made : List Place) : Obstacle → Escape
  | .file => if made.isEmpty then .fileOnTheWay else .fileInTheWay
  | .longName => .nameTooLong
  | .manyMissing => .manyFolders

/-- Writes the source to a file of this name in a folder of a tree.  The file is emptied first, and
stays empty if the source cannot be encoded. -/
def writeFile (tree : FileTree) (target : Path) (folder : Place) (name : String) (source : Text) :
    Delivery :=
  let place := folder ++ [name]
  let path := target.child name
  if isLongName name || path.isLong then .broken [] .nameTooLong
  else if tree.isFolder place then .broken [] .targetIsFolder
  else
    match source.toString? with
    | some s => ⟨"", [.write place s.toUTF8], [.sourceWritten path.toString], none⟩
    | none => .broken [.write place .empty] .notEncodable

/-- Writes the source to a file in the target folder, which is made first if it is missing. -/
def writeSource (h : Host) (target : Path) (name : String) (source : Text) : Delivery :=
  if hasNul target.toString then .broken [] .nulInPath
  else if target.isLong then .broken [] .nameTooLong
  else
    let (missing, reached) := h.tree.missingFolders (h.startOf target) target.parts
    let made := missing.map Change.makeFolder
    match reached with
    | .error obstacle => .broken made (escapeOf missing obstacle)
    | .ok folder =>
      let d := writeFile (h.tree.applyAll made) target folder name source
      { d with changes := made ++ d.changes }

/-- Removes the class of an earlier run from the target folder. -/
def removeStale (h : Host) (target : Path) (name : String) : Delivery :=
  let file := target.child name
  if h.meetsLong file then .broken [] .nameTooLong
  else
    match h.resolve? file with
    | none => ⟨"", [], [], none⟩
    | some place =>
      if h.tree.isFile place then
        ⟨"", [.remove place], [.staleSourceRemoved file.toString], none⟩
      else ⟨"", [], [], none⟩

/-- Delivers the outcome of a pass: the source is printed or written, and where there is none,
that of an earlier run is removed. -/
def deliver (h : Host) (target : Path) (toStdout : Bool) (g : Generation) : Delivery :=
  match g.output, g.hintName with
  | some source, hintName =>
    if toStdout then printSource source else writeSource h target (hintName.getD "") source
  | none, some name => if toStdout then ⟨"", [], [], none⟩ else removeStale h target name
  | none, none => ⟨"", [], [], none⟩

/-- The build properties of a run: the settings, of which the command line replaces some. -/
def mergedProperties (settings : BuildProperties) (onCommandLine : Bindings String String) :
    Bindings String String :=
  settings.toBindings.override onCommandLine.toList

/-- Generates the class of a project from its files. -/
def runPass (h : Host) (r : GenerateRequest) (project : Path) (place : Place)
    (properties : Bindings String String) (files : List String) : Outcome :=
  let g := generate (fun name => .ok (properties.get? name)) (h.loader place) files
  let target := (r.output.map Path.ofString).getD project
  let d := deliver h target r.toStdout g
  let found : Record := ⟨.filesDiscovered project.toString files.length, ∅⟩
  let failed := d.escape.isSome || (r.failOnError && !g.errors.isEmpty)
  { exitCode := if failed then 1 else 0
    output := d.output
    diagnostics := g.diagnostics
    records := found :: g.records ++ d.events.map fun e => ⟨e, ∅⟩
    changes := d.changes
    fault := g.fault
    escape := d.escape }

/-- The place of the project, which has to be a folder. -/
def projectPlace (h : Host) (project : Path) : Except UsageError Place :=
  match h.stat project, h.resolve? project with
  | some .folder, some place => .ok place
  | some (.file _), _ => .error (.projectIsFile project.toString)
  | _, _ => .error (.noSuchFolder project.toString)

/-- Generates the class of a project and writes it. -/
def runGenerate (h : Host) (r : GenerateRequest) : Except UsageError Outcome := do
  let project := Path.ofString (← r.project)
  let place ← projectPlace h project
  if let some written := r.output then
    if let some (.file _) := h.stat (.ofString written) then throw (.outputIsFile written)
  match loadSettings h with
  | .error e => return .escaped e
  | .ok settings =>
    match overrides r.properties with
    | .error argument => throw (.badProperty argument)
    | .ok onCommandLine =>
      if !(outOfReach h.tree project place).isEmpty then return .escaped .nameTooLong
      let properties := mergedProperties settings.build onCommandLine
      return runPass h r project place properties (discover h.tree place)

/-- The help. -/
def helpText : String :=
  "Usage: " ++ toolName
    ++ " [--version] [--log-level LEVEL] generate [--output DIR] [--property NAME=VALUE]..."
    ++ " [--fail-on-error] [--stdout] PROJECT_DIR\n"

/-- The outcome of the command with its arguments; the records of its log are those from the level
on. -/
def runCommand (h : Host) (level : Nat) (arguments : List String) : Except UsageError Outcome := do
  match ← GenerateRequest.ofArguments arguments with
  | none => return .print helpText
  | some r =>
    let o ← runGenerate h r
    return { o with records := kept level o.records }

/-- The outcome of a request.  The level of the log is settled before the arguments of the command
are looked at. -/
def runRequest (h : Host) (defaultLevel : String) : Request → Except UsageError Outcome
  | .showVersion => .ok (.print (toolName ++ " " ++ toolVersion ++ "\n"))
  | .showHelp => .ok (.print helpText)
  | .generate logLevel arguments =>
    match threshold logLevel defaultLevel with
    | .error name => .ok (.escaped (.noLevel name))
    | .ok level => runCommand h level arguments

/-- The outcome of a command line. -/
def run (h : Host) (defaultLevel : String) (arguments : List String) :
    Except UsageError Outcome :=
  (Request.ofArguments arguments).bind (runRequest h defaultLevel)

end Phrasebook.Command
