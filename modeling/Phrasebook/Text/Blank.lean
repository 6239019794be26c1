import Phrasebook.Text.Ranges

/-!
# Blanks

* `isBlank` — the characters that trimming removes and that separate words.
* `isSpaceSeparator` — the spaces among them that belong to the category Zs.
* `trim` — a text without the blanks at its two ends.
* `words` — the maximal runs of other characters.
-/

namespace Phrasebook.Text

/-- White space of every script, with the four ASCII information separators. -/
def blanks : Ranges :=
  [(0x9, 0xd), (0x1c, 0x20), (0x85, 0x85), (0xa0, 0xa0), (0x1680, 0x1680), (0x2000, 0x200a),
   (0x2028, 0x2029), (0x202f, 0x202f), (0x205f, 0x205f), (0x3000, 0x3000)]

/-- Space characters, the general category Zs. -/
def spaceSeparators : Ranges :=
  [(0x20, 0x20), (0xa0, 0xa0), (0x1680, 0x1680), (0x2000, 0x200a), (0x202f, 0x202f),
   (0x205f, 0x205f), (0x3000, 0x3000)]

/-- A character that trimming removes. -/
def isBlank (c : Char) : Bool :=
  blanks.contains c.toNat

/-- A space of the category Zs. -/
def isSpaceSeparator (c : Char) : Bool :=
  spaceSeparators.contains c.toNat

/-- The characters without the blanks at the end. -/
def trimEndChars (s : List Char) : List Char :=
  (s.reverse.dropWhile isBlank).reverse

/-- The characters without the blanks at the two ends. -/
def trimChars (s : List Char) : List Char :=
  trimEndChars (s.dropWhile isBlank)

/-- The text without the blanks at its two ends. -/
def trim (s : String) : String :=
  String.ofList (trimChars s.toList)

/-- The words still to come, the first of which has begun with `word`. -/
def wordsAfter (word : List Char) : List Char → List (List Char)
  | [] => if word.isEmpty then [] else [word]
  | c :: rest =>
    if isBlank c then
      if word.isEmpty then wordsAfter [] rest else word :: wordsAfter [] rest
    else wordsAfter (word ++ [c]) rest

/-- The words of a text: its maximal runs without a blank. -/
def words (s : String) : List String :=
  (wordsAfter [] s.toList).map String.ofList

end Phrasebook.Text
