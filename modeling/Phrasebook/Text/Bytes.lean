import Phrasebook.Text.Line

/-!
# Text of a file

A file of text is UTF-8, perhaps with a byte order mark in front, and its lines may end in CR LF,
CR or LF.

* `byteOrderMark` — the three bytes of the mark.
* `dropMark` — the bytes after the mark, if there is one.
* `readText` — the text of a file, or `none` if its bytes are not UTF-8.
-/

namespace Phrasebook.Text

/-- The UTF-8 form of U+FEFF. -/
def byteOrderMark : List UInt8 := [0xef, 0xbb, 0xbf]

/-- The bytes without the byte order mark in front.  A file that ends within the mark has no
text at all: what there is of the mark is dropped as well. -/
def dropMark (bytes : List UInt8) : List UInt8 :=
  if byteOrderMark.isPrefixOf bytes then bytes.drop 3
  else if bytes.isPrefixOf byteOrderMark then []
  else bytes

/-- The text of a file whose bytes are UTF-8, with one byte order mark removed and every line
ended by LF. -/
def readText (bytes : ByteArray) : Option String :=
  (String.fromUTF8? ⟨(dropMark bytes.data.toList).toArray⟩).map fun s =>
    String.ofList (unixNewlines s.toList)

end Phrasebook.Text
