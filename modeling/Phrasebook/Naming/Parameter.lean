import Phrasebook.CSharp.Identifier
import Phrasebook.Naming.Fresh

/-!
# Parameter names

* `parameterBase` — the name of a placeholder's parameter when no other name is in its way.
* `parameterNames` — one name for each placeholder of a text, all different, with `@` before a
  keyword.
-/

namespace Phrasebook.Naming

open Phrasebook.CSharp

/-- The name of a placeholder's parameter when no other name is in its way: what cannot stand in
an identifier becomes an underscore, and a digit does not come first. -/
def parameterBase (key : String) : String :=
  String.ofList (guardDigitChars (key.toList.map fun c => if isIdentifierChar c then c else '_'))

/-- Names for the parameters of several placeholders.  Each is different from the used names and
from those before it; `@` is not part of a name and is added to a keyword at the end. -/
def parameterNames (used : List String) : List String → List String
  | [] => []
  | key :: rest =>
    let name := fresh used (parameterBase key)
    verbatim name :: parameterNames (name :: used) rest

end Phrasebook.Naming
