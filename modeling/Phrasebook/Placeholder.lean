import Phrasebook.Naming.Parameter
import Phrasebook.Text.Case

/-!
# Placeholders

A text may hold placeholders such as `{{name}}`, written with two braces on either side and
perhaps spaces around the name.

* `nameAt?` — the name of the placeholder at the start of some characters, and what follows it.
* `occurrences` — the names of all placeholders, from left to right.
* `placeholderNames` — the different names, where case does not count.
* `Placeholder` — a placeholder with the parameter that fills it.
* `placeholdersOf` — the placeholders of a text.
-/

namespace Phrasebook

open Phrasebook.CSharp Phrasebook.Naming Phrasebook.Text

/-- A character of a placeholder's name: a letter, a numeric character, `_`, `.` or `-`. -/
def isPlaceholderChar (c : Char) : Bool :=
  isLetterOrDigit c || isNumeral c || c == '_' || c == '.' || c == '-'

/-- Takes off the two braces that open a placeholder. -/
def afterOpening? : List Char → Option (List Char)
  | '\x7b' :: '\x7b' :: rest => some rest
  | _ => none

/-- Takes off the two braces that close a placeholder. -/
def afterClosing? : List Char → Option (List Char)
  | '\x7d' :: '\x7d' :: rest => some rest
  | _ => none

/-- The characters after any spaces. -/
def skipSpaces (s : List Char) : List Char :=
  s.dropWhile (· == ' ')

/-- The name of the placeholder that starts here, and the characters after it. -/
def nameAt? (s : List Char) : Option (List Char × List Char) := do
  let inner ← afterOpening? s
  let inner := skipSpaces inner
  let name := inner.takeWhile isPlaceholderChar
  if name.isEmpty then none
  let rest ← afterClosing? (skipSpaces (inner.dropWhile isPlaceholderChar))
  pure (name, rest)

theorem afterOpening?_length {s rest : List Char} (h : afterOpening? s = some rest) :
    rest.length < s.length := by
  unfold afterOpening? at h
  split at h
  · simp only [Option.some.injEq] at h
    subst h
    simp only [List.length_cons]
    omega
  · simp at h

theorem afterClosing?_length {s rest : List Char} (h : afterClosing? s = some rest) :
    rest.length < s.length := by
  unfold afterClosing? at h
  split at h
  · simp only [Option.some.injEq] at h
    subst h
    simp only [List.length_cons]
    omega
  · simp at h

theorem skipSpaces_length (s : List Char) : (skipSpaces s).length ≤ s.length :=
  (List.dropWhile_sublist _).length_le

/-- A placeholder takes up characters. -/
theorem nameAt?_length {s name rest : List Char} (h : nameAt? s = some (name, rest)) :
    rest.length < s.length := by
  simp only [nameAt?, Option.bind_eq_bind, Option.bind_eq_some_iff, Option.pure_def] at h
  obtain ⟨inner, hi, h⟩ := h
  split at h
  · simp at h
  · simp only [Option.bind_eq_some_iff, Option.some.injEq, Prod.mk.injEq] at h
    obtain ⟨r, hr, -, rfl⟩ := h
    have h1 := afterOpening?_length hi
    have h2 := afterClosing?_length hr
    have h3 := skipSpaces_length ((skipSpaces inner).dropWhile isPlaceholderChar)
    have h4 : ((skipSpaces inner).dropWhile isPlaceholderChar).length ≤ (skipSpaces inner).length :=
      (List.dropWhile_sublist _).length_le
    have h5 := skipSpaces_length inner
    omega

/-- The names of all placeholders, from left to right.  After a placeholder the search goes on
behind it, and otherwise behind the next character. -/
def occurrences : List Char → List (List Char)
  | [] => []
  | c :: rest =>
    match _h : nameAt? (c :: rest) with
    | some (name, after) => name :: occurrences after
    | none => occurrences rest
termination_by s => s.length
decreasing_by
  · exact nameAt?_length (by assumption)
  · simp

/-- The names whose folding is not among `seen` and not that of a name before them. -/
def distinctNames (seen : List String) : List String → List String
  | [] => []
  | name :: rest =>
    if seen.contains (fold name) then distinctNames seen rest
    else name :: distinctNames (fold name :: seen) rest

/-- The names of the placeholders in a text.  Names that differ in case only are one name, which
is spelled as it is the first time. -/
def placeholderNames (text : String) : List String :=
  distinctNames [] ((occurrences text.toList).map String.ofList)

/-- A placeholder: its name in the text and the parameter that fills it. -/
structure Placeholder where
  key : String
  parameter : String
  deriving DecidableEq, Repr, Inhabited

/-- The placeholders of a text.  No parameter has one of the reserved names. -/
def placeholdersOf (reserved : List String) (text : String) : List Placeholder :=
  let names := placeholderNames text
  List.zipWith Placeholder.mk names (parameterNames reserved names)

end Phrasebook
