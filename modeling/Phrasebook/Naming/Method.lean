import Phrasebook.CSharp.Identifier
import Phrasebook.Naming.Fresh
import Phrasebook.Text.Case

/-!
# Method names

The method of a key such as `some.key-here` is `Some_KeyHere`.

* `methodChars` — the letters and digits of a key, with a capital at the start of each word and
  an underscore for each dot.
* `methodBase` — the name of a key when no other name is in its way.
* `methodName`, `methodNames` — a name that is not used yet, and the names of several keys.
* `reservedNames` — the names that a generated class keeps for itself.
-/

namespace Phrasebook.Naming

open Phrasebook.CSharp Phrasebook.Text

/-- The members of every generated class. -/
def memberNames : List String := ["Init", "Translations", "GetByKey", "Keys"]

/-- The names that no method of the class may have: its own and those of its members. -/
def reservedNames (className : String) : List String :=
  className :: memberNames

/-- The letters and digits of a key.  A dot becomes an underscore and every other character
vanishes; what follows either is written with a capital, as `capital` says for the first one. -/
def methodChars (capital : Bool) : List Char → List Char
  | [] => []
  | c :: rest =>
    if c = '.' then '_' :: methodChars true rest
    else if isLetterOrDigit c then
      (if capital then upper c else [c]) ++ methodChars false rest
    else methodChars true rest

/-- The name of a key when no other name is in its way.  A key without letters and digits is
named `_`, and a digit does not come first. -/
def methodBase (key : String) : String :=
  let name := methodChars true key.toList
  String.ofList (guardDigitChars (if name.isEmpty then ['_'] else name))

/-- A name for the method of a key that is not among the used names. -/
def methodName (used : List String) (key : String) : String :=
  fresh used (methodBase key)

/-- Names for the methods of several keys, each different from those before it. -/
def methodNames (used : List String) : List String → List String
  | [] => []
  | key :: rest =>
    let name := methodName used key
    name :: methodNames (name :: used) rest

end Phrasebook.Naming
