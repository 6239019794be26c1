import Phrasebook.Text.Basic
import Phrasebook.Text.Line

/-!
# String literals of C#

* `StringLiteral.encode` — a regular literal for any text.  Quotes and backslashes are escaped,
  and so is every character that ends a line or is a control.
* `StringLiteral.decode` — the text that a regular literal stands for, by the rules of C#.
-/

namespace Phrasebook.CSharp

open Phrasebook.Text

namespace StringLiteral

/-- The letter of a short escape: after a backslash it stands for the character. -/
def escapeLetter? (c : Char) : Option Char :=
  if c = '\\' then some '\\'
  else if c = '"' then some '"'
  else if c = '\x00' then some '0'
  else if c = '\x07' then some 'a'
  else if c = '\x08' then some 'b'
  else if c = '\x0c' then some 'f'
  else if c = '\n' then some 'n'
  else if c = '\r' then some 'r'
  else if c = '\t' then some 't'
  else if c = '\x0b' then some 'v'
  else none

/-- How one character is written between the quotes. -/
def encodeChar (c : Char) : List Char :=
  match escapeLetter? c with
  | some letter => ['\\', letter]
  | none => if c.toNat < 0x20 || isLineEnd c then '\\' :: 'u' :: hex4 c.toNat else [c]

/-- How one code point is written between the quotes.  A half is written as it is. -/
def encodePoint : Point → Text
  | .char c => ofChars (encodeChar c)
  | .half h => [.half h]

/-- What stands between the quotes of a literal. -/
def encodeBody (value : Text) : Text :=
  value.flatMap encodePoint

/-- The regular literal of a text. -/
def encode (value : Text) : Text :=
  "\"" ++ encodeBody value ++ "\""

/-- The character that a short escape stands for. -/
def unescapeLetter? (c : Char) : Option Char :=
  if c = '\\' then some '\\'
  else if c = '"' then some '"'
  else if c = '\x27' then some '\x27'
  else if c = '0' then some '\x00'
  else if c = 'a' then some '\x07'
  else if c = 'b' then some '\x08'
  else if c = 'f' then some '\x0c'
  else if c = 'n' then some '\n'
  else if c = 'r' then some '\r'
  else if c = 't' then some '\t'
  else if c = 'v' then some '\x0b'
  else none

/-- Whether a code point cannot stand for itself between the quotes. -/
def isSpecial : Point → Bool
  | .char c => c == '\\' || isLineEnd c
  | .half _ => false

/-- Reads what stands after the opening quote, up to a closing quote that ends the text.  A line
end and a backslash without a valid escape are refused. -/
def decodeBody : Text → Option Text
  | [] => none
  | .char '"' :: rest => if rest.isEmpty then some [] else none
  | .char '\\' :: .char 'u' :: .char a :: .char b :: .char c :: .char d :: rest =>
    match hexNumber? [a, b, c, d] with
    | some n => (decodeBody rest).map (.ofUnit n :: ·)
    | none => none
  | .char '\\' :: .char letter :: rest =>
    match unescapeLetter? letter with
    | some c => (decodeBody rest).map (.char c :: ·)
    | none => none
  | p :: rest => if isSpecial p then none else (decodeBody rest).map (p :: ·)

/-- The text that a regular literal stands for. -/
def decode : Text → Option Text
  | .char '"' :: rest => decodeBody rest
  | _ => none

end StringLiteral

end Phrasebook.CSharp
