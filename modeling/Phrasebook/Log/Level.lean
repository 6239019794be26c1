import Phrasebook.Text.Case

/-!
# Log levels

* `Level`, `Level.severity` — the levels that are logged and their numbers.
* `levelNumber?` — the number of a named level.
* `NotALevel`, `notALevel?` — names that the log knows for something else.
* `threshold` — the number from which on records are kept.
-/

namespace Phrasebook.Log

open Phrasebook.Text

/-- The level of a record. -/
inductive Level where
  | info
  | warning
  | error
  deriving DecidableEq, Repr

/-- The word for a level. -/
def Level.name : Level → String
  | .info => "info"
  | .warning => "warning"
  | .error => "error"

/-- The number of a level; it grows with the urgency. -/
def Level.severity : Level → Nat
  | .info => 20
  | .warning => 30
  | .error => 40

/-- The number of a named level. -/
def levelNumber? (name : String) : Option Nat :=
  [("NOTSET", 0), ("DEBUG", 10), ("INFO", 20), ("WARN", 30), ("WARNING", 30), ("ERROR", 40),
    ("CRITICAL", 50), ("FATAL", 50)].lookup name

/-- What is known to the log by a name, but is no level. -/
inductive NotALevel where
  /-- The form of a line. -/
  | format
  /-- The table of the styles in which a form can be written. -/
  | styles
  deriving DecidableEq, Repr

/-- The form of a line as the log spells it. -/
def lineFormat : String := "%(levelname)s:%(name)s:%(message)s"

/-- Why the request for a level cannot be met, in words. -/
def NotALevel.message : NotALevel → String
  | .format => "Unknown level: '" ++ lineFormat ++ "'"
  | .styles => "Level not an integer or a valid string"

/-- What a name stands for if the log knows it for something else than a level. -/
def notALevel? (name : String) : Option NotALevel :=
  [("BASIC_FORMAT", NotALevel.format), ("_STYLES", .styles)].lookup name

/-- The number from which on records are kept.  An empty request counts as none, the case of a
name does not count, and an unknown name stands for the level of information. -/
def threshold (requested : Option String) (default : String) : Except NotALevel Nat :=
  let name := toUpper ((requested.filter (· ≠ "")).getD default)
  match notALevel? name with
  | some other => .error other
  | none => .ok ((levelNumber? name).getD Level.info.severity)

end Phrasebook.Log
