import Phrasebook.CSharp.StringLiteral
import Phrasebook.Entry

/-!
# The bundle of a method's arguments

A method hands the values of its placeholders on in one C# expression.

* `anonymousMember` — a member of an anonymous object.
* `dictionaryItem` — an item of a dictionary.
* `Entry.bundle?` — the expression, if there are placeholders.
-/

namespace Phrasebook

open Phrasebook.CSharp

/-- A member of an anonymous object.  The parameter alone does when the member takes its name
from it; otherwise the name is given, a keyword with `@`. -/
def anonymousMember (p : Placeholder) : Text :=
  if unescaped p.parameter = p.key then p.parameter
  else verbatim p.key ++ " = " ++ p.parameter

/-- An item of a dictionary: the name of the placeholder and the parameter. -/
def dictionaryItem (p : Placeholder) : Text :=
  "[" ++ StringLiteral.encode p.key ++ "] = " ++ p.parameter

/-- The expression that hands the values of the placeholders on. -/
def Entry.bundle? (e : Entry) : Option Text :=
  match e.style with
  | .none => none
  | .anonymousObject =>
    some ("new \x7b " ++ Text.joinTexts ", " (e.placeholders.map anonymousMember) ++ " \x7d")
  | .dictionary =>
    some ("new Dictionary<string, object?> \x7b "
      ++ Text.joinTexts ", " (e.placeholders.map dictionaryItem) ++ " \x7d")

end Phrasebook
