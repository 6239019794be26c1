import Phrasebook.Text.Hex

/-!
# Texts

A text is a sequence of code points.  Nearly all of them are characters, but an escape can name
one half of a pair of 16-bit units, a code point from U+D800 to U+DFFF, and no character is such
a half.  Text without halves is held in strings, and a string counts as a text.

* `Half`, `Point`, `Text` — halves, code points and texts.
* `Point.ofUnit` — the code point of a number below 65536.
* `Text.ofString`, `Text.toString?` — the text of a string, and the string of a text without
  halves.
* `Text.legible`, `Text.spelled` — strings for any text, in which a half is a replacement
  character or an escape.
* `Text.joinTexts`, `Text.unlines`, `Text.plain` — texts put together.
* `Point.toNat_ofUnit`, `Point.ofUnit_toNat`, `Text.toString?_ofString`, `Text.ofString_injective` —
  nothing is lost on these ways.
-/

namespace Phrasebook

/-- One half of a pair of 16-bit units. -/
structure Half where
  code : Nat
  first_le : 0xd800 ≤ code
  le_last : code ≤ 0xdfff
  deriving DecidableEq, Repr

/-- A code point: a character or a half. -/
inductive Point where
  | char (c : Char)
  | half (h : Half)
  deriving DecidableEq, Repr

namespace Point

/-- The number of a code point. -/
def toNat : Point → Nat
  | .char c => c.toNat
  | .half h => h.code

/-- The code point of a number below 65536. -/
def ofUnit (n : Nat) : Point :=
  if h : 0xd800 ≤ n ∧ n ≤ 0xdfff then .half ⟨n, h.1, h.2⟩ else .char (Char.ofNat n)

/-- The character that a code point is. -/
def char? : Point → Option Char
  | .char c => some c
  | .half _ => none

/-- The character that a code point is, or the replacement character for a half. -/
def legible : Point → Char
  | .char c => c
  | .half _ => '\ufffd'

/-- How a code point is written where halves have to be spelled out. -/
def spelled : Point → List Char
  | .char c => [c]
  | .half h => '\\' :: 'u' :: Text.hex4 h.code

theorem toNat_ofNat_of_valid {n : Nat} (h : n.isValidChar) : (Char.ofNat n).toNat = n := by
  rw [Char.ofNat, dif_pos h]
  rfl

/-- Below 65536 every number is that of a code point. -/
theorem toNat_ofUnit {n : Nat} (h : n < 0x10000) : (ofUnit n).toNat = n := by
  unfold ofUnit
  split
  · rfl
  · rename_i hn
    refine toNat_ofNat_of_valid ?_
    unfold Nat.isValidChar
    omega

/-- The number of a character is that of this character alone. -/
theorem ofUnit_toNat (c : Char) : ofUnit c.toNat = .char c := by
  have hvalid : c.toNat.isValidChar := c.valid
  unfold Nat.isValidChar at hvalid
  rw [ofUnit, dif_neg (by omega), Char.ofNat_toNat]

end Point

/-- A sequence of code points. -/
abbrev Text := List Point

namespace Text

/-- Characters as a text. -/
def ofChars (s : List Char) : Text :=
  s.map .char

/-- A string as a text. -/
def ofString (s : String) : Text :=
  ofChars s.toList

instance : Coe String Text := ⟨ofString⟩

/-- The characters of a text without halves. -/
def toChars? (t : Text) : Option (List Char) :=
  t.mapM Point.char?

/-- The string of a text without halves.  Only such a text can be encoded. -/
def toString? (t : Text) : Option String :=
  t.toChars?.map String.ofList

/-- The text with a replacement character for every half. -/
def legible (t : Text) : String :=
  String.ofList (t.map Point.legible)

/-- The text with every half written as an escape. -/
def spelled (t : Text) : String :=
  String.ofList (t.flatMap Point.spelled)

/-- Texts in a row, with `between` between neighbours. -/
def joinTexts (between : Text) (texts : List Text) : Text :=
  between.intercalate texts

/-- The lines as one text, each of them ended by LF. -/
def unlines (lines : List Text) : Text :=
  lines.flatMap (· ++ [.char '\n'])

/-- Strings as texts. -/
def plain (strings : List String) : List Text :=
  strings.map ofString

theorem toChars?_ofChars (s : List Char) : (ofChars s).toChars? = some s := by
  induction s with
  | nil => rfl
  | cons c rest ih =>
    simp only [toChars?, ofChars] at ih
    simp [toChars?, ofChars, Point.char?, ih]

/-- A string comes back from its text. -/
theorem toString?_ofString (s : String) : (ofString s).toString? = some s := by
  simp [toString?, ofString, toChars?_ofChars]

theorem eq_ofChars_of_toChars? {t : Text} :
    ∀ {s : List Char}, t.toChars? = some s → t = ofChars s := by
  induction t with
  | nil =>
    intro s h
    rw [← Option.some.inj h]
    rfl
  | cons p rest ih =>
    intro s h
    rw [toChars?, List.mapM_cons] at h
    obtain ⟨c, hc, h⟩ := Option.bind_eq_some_iff.mp h
    obtain ⟨others, hothers, h⟩ := Option.bind_eq_some_iff.mp h
    rw [← Option.some.inj h, ih hothers]
    cases p with
    | char d =>
      rw [← Option.some.inj hc]
      rfl
    | half d => exact absurd hc (by simp [Point.char?])

/-- A text that has a string is the text of this string. -/
theorem eq_ofString_of_toString? {t : Text} {s : String} (h : t.toString? = some s) :
    t = ofString s := by
  obtain ⟨chars, hchars, rfl⟩ := Option.map_eq_some_iff.mp h
  rw [ofString, String.toList_ofList]
  exact eq_ofChars_of_toChars? hchars

theorem ofString_injective {s t : String} (h : ofString s = ofString t) : s = t := by
  have hboth := toString?_ofString t
  rw [← h, toString?_ofString] at hboth
  exact Option.some.inj hboth

end Text

end Phrasebook
