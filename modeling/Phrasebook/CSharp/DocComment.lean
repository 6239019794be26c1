import Phrasebook.Text.Basic
import Phrasebook.Text.Line

/-!
# Text in documentation comments

A documentation comment is XML on a single line.

* `DocComment.encode` — any text for such a comment: markup is escaped and a line break becomes
  a space.
* `DocComment.decode` — the text that a reader of the comment sees.
* `DocComment.flatten` — the text with its line breaks as spaces, which is what can be read back.
-/

namespace Phrasebook.CSharp

open Phrasebook.Text

namespace DocComment

/-- How one character is written: `&`, `<` and `>` as entities, a line end as a space. -/
def encodeChar (c : Char) : List Char :=
  if c = '&' then ['&', 'a', 'm', 'p', ';']
  else if c = '<' then ['&', 'l', 't', ';']
  else if c = '>' then ['&', 'g', 't', ';']
  else if isLineEnd c then [' ']
  else [c]

/-- How one code point is written.  A half is written as it is. -/
def encodePoint : Point → Text
  | .char c => ofChars (encodeChar c)
  | .half h => [.half h]

/-- The text of a comment; CR LF counts as one line break. -/
def encode : Text → Text
  | [] => []
  | .char '\r' :: .char '\n' :: rest => .char ' ' :: encode rest
  | p :: rest => encodePoint p ++ encode rest

/-- The text that the comment shows: the three entities are replaced by their characters, in one
pass from the left. -/
def decode : Text → Text
  | [] => []
  | .char '&' :: .char 'a' :: .char 'm' :: .char 'p' :: .char ';' :: rest =>
    .char '&' :: decode rest
  | .char '&' :: .char 'l' :: .char 't' :: .char ';' :: rest => .char '<' :: decode rest
  | .char '&' :: .char 'g' :: .char 't' :: .char ';' :: rest => .char '>' :: decode rest
  | p :: rest => p :: decode rest

/-- The code point, or a space for one that ends a line. -/
def flattenPoint : Point → Point
  | .char c => .char (if isLineEnd c then ' ' else c)
  | .half h => .half h

/-- The text on one line: with a space for every line break, of which CR LF is one. -/
def flatten : Text → Text
  | [] => []
  | .char '\r' :: .char '\n' :: rest => .char ' ' :: flatten rest
  | p :: rest => flattenPoint p :: flatten rest

end DocComment

end Phrasebook.CSharp
