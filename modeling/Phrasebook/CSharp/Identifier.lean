import Phrasebook.CSharp.Keyword
import Phrasebook.Text.Digit
import Phrasebook.Text.Letter

/-!
# Identifiers of C#

* `isLetterOrDigit`, `isIdentifierChar` — the characters of an identifier.
* `isBareName` — texts that can name a member as they stand.
* `guardDigit` — an underscore before a digit that would come first.
* `verbatim`, `unescaped` — `@` before a keyword, and the name without it.
-/

namespace Phrasebook.CSharp

open Phrasebook.Text

/-- A letter or a decimal digit of any script. -/
def isLetterOrDigit (c : Char) : Bool :=
  isLetter c || isDecimalDigit c

/-- A character that may stand in an identifier. -/
def isIdentifierChar (c : Char) : Bool :=
  c == '_' || isLetterOrDigit c

/-- A text that can name a member as it stands: letters, digits and underscores, of which the
first is no digit. -/
def isBareName (name : String) : Bool :=
  match name.toList with
  | [] => false
  | c :: rest => !isDecimalDigit c && (c :: rest).all isIdentifierChar

/-- The characters of a name, with an underscore before a digit that would come first. -/
def guardDigitChars : List Char → List Char
  | [] => []
  | c :: rest => if isDecimalDigit c then '_' :: c :: rest else c :: rest

/-- A name with an underscore before a digit that would come first. -/
def guardDigit (name : String) : String :=
  String.ofList (guardDigitChars name.toList)

/-- A name as it is written in a declaration: a keyword takes `@`. -/
def verbatim (name : String) : String :=
  if isKeyword name then "@" ++ name else name

/-- The name that a written identifier stands for: `@` is not part of it. -/
def unescaped (written : String) : String :=
  match written.toList with
  | '@' :: rest => String.ofList rest
  | _ => written

end Phrasebook.CSharp
