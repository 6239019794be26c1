import Phrasebook.Bindings
import Phrasebook.Text.Blank
import Phrasebook.Text.Fields

/-!
# Build properties on the command line

* `override?` — the name and the value of `NAME=VALUE`.
* `overrides` — those of several arguments, of which the last one for a name wins.
-/

namespace Phrasebook.Command

open Phrasebook.Text

/-- The name and the value of `NAME=VALUE`.  The name is trimmed and must not be empty; the
value is taken as it is. -/
def override? (argument : String) : Option (String × String) :=
  match cutAt? '=' argument.toList with
  | none => none
  | some (name, value) =>
    let name := String.ofList (trimChars name)
    if name = "" then none else some (name, String.ofList value)

/-- The names and values of the arguments in order, or the first argument that is none. -/
def overridePairs : List String → Except String (List (String × String))
  | [] => .ok []
  | argument :: rest =>
    match override? argument with
    | none => .error argument
    | some p => (overridePairs rest).map (p :: ·)

/-- The properties that the arguments set, or the first argument that sets none. -/
def overrides (arguments : List String) : Except String (Bindings String String) :=
  (overridePairs arguments).map Bindings.ofList

end Phrasebook.Command
