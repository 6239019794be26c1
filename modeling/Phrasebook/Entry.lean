import Phrasebook.CSharp.DocComment
import Phrasebook.Naming.Method
import Phrasebook.Placeholder

/-!
# Entries

An entry is a key with its text and with the method that is generated for it.

* `Entry` — key, method, text and placeholders.
* `ArgumentStyle`, `Entry.style` — how the method hands its arguments on.
* `Entry.docText` — the text for a documentation comment.
* `Entry.ofText` — the entry of a key and a text.
-/

namespace Phrasebook

open Phrasebook.CSharp Phrasebook.Naming

/-- How a method hands the values of its placeholders on. -/
inductive ArgumentStyle where
  /-- There is nothing to hand on. -/
  | none
  /-- An anonymous object, whose members have the placeholders' names. -/
  | anonymousObject
  /-- A dictionary, for names that no member can have. -/
  | dictionary
  deriving DecidableEq, Repr

/-- A key, the method generated for it, its text and the placeholders of the text. -/
structure Entry where
  key : Text
  method : String
  text : Text
  placeholders : List Placeholder
  deriving DecidableEq, Repr, Inhabited

namespace Entry

/-- An anonymous object does when every placeholder's name can name a member. -/
def style (e : Entry) : ArgumentStyle :=
  if e.placeholders.isEmpty then .none
  else if e.placeholders.all fun p => isBareName p.key then .anonymousObject
  else .dictionary

/-- The text for a documentation comment. -/
def docText (e : Entry) : Text :=
  DocComment.encode e.text

/-- The entry of a key and a text.  Its method is none of the used names, and its parameters are
none of the reserved ones.  Halves of characters occur in no name. -/
def ofText (reserved used : List String) (key text : Text) : Entry where
  key := key
  method := methodName used key.legible
  text := text
  placeholders := placeholdersOf reserved text.legible

end Entry

end Phrasebook
