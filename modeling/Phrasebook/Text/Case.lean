import Phrasebook.Text.CaseTable

/-!
# Upper case and case folding

* `CaseMap.apply` — the image of one character under a case mapping.
* `upper` — the full upper case of a character, one to three characters long.
* `toUpper` — the upper case of a text, character by character.
* `fold` — the folded text, equal for texts that differ in case only.
* `lowerAscii` — lower case of the ASCII letters, all else untouched.
-/

namespace Phrasebook.Text

/-- Whether the run moves this code point. -/
def CaseRun.covers (r : CaseRun) (n : Nat) : Bool :=
  r.first ≤ n && n ≤ r.last && (n - r.first) % r.step == 0

/-- Where the run moves a code point that it covers. -/
def CaseRun.image (r : CaseRun) (n : Nat) : Nat :=
  (n + r.shift).toNat

/-- The image of one character: its expansion, its place in a run, or itself. -/
def CaseMap.apply (m : CaseMap) (c : Char) : List Char :=
  match m.expansions.lookup c.toNat with
  | some image => image.map Char.ofNat
  | none =>
    match m.runs.find? (·.covers c.toNat) with
    | some run => [Char.ofNat (run.image c.toNat)]
    | none => [c]

/-- The full upper case mapping. -/
def upperMap : CaseMap := ⟨upperRuns, upperExpansions⟩

/-- The full case folding. -/
def foldMap : CaseMap := ⟨foldRuns, foldExpansions⟩

/-- The upper case of one character; `ß` has the two characters of `SS`. -/
def upper (c : Char) : List Char :=
  upperMap.apply c

/-- The upper case of a text. -/
def toUpper (s : String) : String :=
  String.ofList (s.toList.flatMap upper)

/-- The folded text: two texts have the same folding when they differ in case only. -/
def fold (s : String) : String :=
  String.ofList (s.toList.flatMap foldMap.apply)

/-- A text with its ASCII letters in lower case. -/
def lowerAscii (s : String) : String :=
  String.ofList (s.toList.map Char.toLower)

end Phrasebook.Text
