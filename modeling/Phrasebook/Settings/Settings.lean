import Phrasebook.Json.Check
import Phrasebook.Settings.BuildProperties

/-!
# Settings

Settings come from values that are given directly, from the environment and from an environment
file; the first of these that has a value decides.

* `Sources`, `Sources.get?` — the three sources of a value.
* `Renderer` — how logs are written.
* `SettingsFault` — why there are no settings.
* `Settings`, `Settings.load` — all settings.
-/

namespace Phrasebook

open Phrasebook.Text

/-- Where settings come from.  A name may be given directly, or defined in the file, to have no
value. -/
structure Sources where
  given : Bindings String (Option String)
  environment : String → Option String
  file : Bindings String (Option String)

/-- The value of a name: the given one, even if it is none, then that of the environment, then
that of the file. -/
def Sources.get? (s : Sources) (name : String) : Option String :=
  match s.given.get? name with
  | some value => value
  | none => (s.environment name).or (s.file.get? name).join

/-- How logs are written. -/
inductive Renderer where
  | console
  | json
  deriving DecidableEq, Repr

/-- The word for a renderer. -/
def Renderer.name : Renderer → String
  | .console => "console"
  | .json => "json"

/-- The renderer that a word stands for. -/
def Renderer.ofName? (name : String) : Option Renderer :=
  if name = "console" then some .console
  else if name = "json" then some .json
  else none

/-- All settings of the tool. -/
structure Settings where
  logLevel : String
  logRenderer : Renderer
  build : BuildProperties
  deriving DecidableEq, Repr

/-- The level of logging when no other one is set. -/
def defaultLogLevel : String := "INFO"

/-- Why there are no settings. -/
inductive SettingsFault where
  /-- There is no such renderer. -/
  | unknownRenderer
  /-- The value for all build properties at once is not JSON. -/
  | malformed
  /-- The value for all build properties at once is nested too deeply. -/
  | tooDeep
  deriving DecidableEq, Repr

/-- The name under which all build properties can be given at once. -/
def sectionName : String := "builder"

/-- The values for all build properties at once.  Each property is taken from its own name, so
these values decide nothing, but they have to be JSON. -/
def Sources.sections (s : Sources) : List String :=
  (s.environment sectionName).toList ++ (s.file.get? sectionName).join.toList

/-- Checks that texts are JSON, in order. -/
def checkSections : List String → Except SettingsFault Unit
  | [] => .ok ()
  | text :: rest =>
    match Json.check text with
    | .ok () => checkSections rest
    | .error .malformed => .error .malformed
    | .error .tooDeep => .error .tooDeep

/-- Loads the settings.  Values that are given directly count for the build properties only. -/
def Settings.load (s : Sources) : Except SettingsFault Settings := do
  checkSections s.sections
  let tool := { s with given := ∅ }
  match Renderer.ofName? ((tool.get? "LOG_RENDERER").getD Renderer.console.name) with
  | none => throw .unknownRenderer
  | some renderer =>
    return ⟨(tool.get? "LOG_LEVEL").getD defaultLogLevel, renderer, .ofLookup s.get?⟩

end Phrasebook
