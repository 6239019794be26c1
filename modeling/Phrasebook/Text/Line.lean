/-!
# Lines

* `isLineEnd` — the characters that end a line of C#: CR, LF, U+0085, U+2028 and U+2029.
* `unixNewlines` — CR LF and CR written as LF.
* `oneLine` — a text of several lines folded into one.
-/

namespace Phrasebook.Text

/-- A character that ends a line of C# source. -/
def isLineEnd (c : Char) : Bool :=
  c == '\r' || c == '\n' || c == '\u0085' || c == '\u2028' || c == '\u2029'

/-- CR LF and a lone CR become LF. -/
def unixNewlines : List Char → List Char
  | [] => []
  | '\r' :: '\n' :: rest => '\n' :: unixNewlines rest
  | '\r' :: rest => '\n' :: unixNewlines rest
  | c :: rest => c :: unixNewlines rest

/-- Fits one character into a line: CR vanishes and LF is written as a backslash and an `n`. -/
def inlineChar (c : Char) : List Char :=
  if c = '\r' then [] else if c = '\n' then ['\\', 'n'] else [c]

/-- Fits a text of several lines, such as the account of a failure, into a single line. -/
def oneLine (s : String) : String :=
  String.ofList (s.toList.flatMap inlineChar)

/-- No CR and no LF is left by `oneLine`. -/
theorem oneLine_no_newline (s : String) :
    ∀ c ∈ (oneLine s).toList, c ≠ '\r' ∧ c ≠ '\n' := by
  intro c hc
  simp only [oneLine, String.toList_ofList, List.mem_flatMap] at hc
  obtain ⟨d, -, hd⟩ := hc
  unfold inlineChar at hd
  split at hd
  · simp at hd
  · split at hd
    · simp only [List.mem_cons, List.not_mem_nil, or_false] at hd
      rcases hd with rfl | rfl <;> decide
    · simp only [List.mem_cons, List.not_mem_nil, or_false] at hd
      subst hd
      exact ⟨by assumption, by assumption⟩

end Phrasebook.Text
