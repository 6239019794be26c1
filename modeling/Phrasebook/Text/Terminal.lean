import Phrasebook.Text.Basic

/-!
# Text that is printed

Printed text goes to files and to other programs as well, so it controls no terminal.

* `sequenceEnd?` — what follows a control sequence: `ESC [`, parameters and a letter.
* `printed` — a text without its control sequences.
* `shown` — a text as a line of messages: halves of characters are written as escapes.
-/

namespace Phrasebook.Text

/-- A code point between the start of a control sequence and its letter. -/
def isParameter : Point → Bool
  | .char c => c == ';' || c == '?' || c.isDigit
  | .half _ => false

/-- A code point that ends a control sequence: an ASCII letter. -/
def isFinal : Point → Bool
  | .char c => c.isAlpha
  | .half _ => false

/-- What follows the control sequence that a text starts with, if it does. -/
def sequenceEnd? : Text → Option Text
  | .char '\x1b' :: .char '[' :: rest =>
    match rest.dropWhile isParameter with
    | [] => none
    | p :: after => if isFinal p then some after else none
  | _ => none

theorem sequenceEnd?_length (t : Text) : ∀ r ∈ sequenceEnd? t, r.length < t.length := by
  intro r hr
  unfold sequenceEnd? at hr
  split at hr
  · rename_i rest
    have hl : (rest.dropWhile isParameter).length ≤ rest.length :=
      (List.dropWhile_sublist _).length_le
    split at hr
    · simp at hr
    · rename_i p after hd
      rw [hd, List.length_cons] at hl
      split at hr
      · simp only [Option.mem_def, Option.some.injEq] at hr
        subst hr
        simp only [List.length_cons]
        omega
      · simp at hr
  · simp at hr

/-- The text without the control sequences in it.  What is left may look like a sequence again; it
stays. -/
def printed (t : Text) : Text :=
  match t with
  | [] => []
  | p :: rest =>
    match _h : sequenceEnd? (p :: rest) with
    | some after => printed after
    | none => p :: printed rest
termination_by t.length
decreasing_by
  · exact sequenceEnd?_length _ _ (by assumption)
  · simp

/-- A message as it is shown: without control sequences, and with halves of characters written
as escapes. -/
def shown (t : Text) : String :=
  (printed t).spelled

end Phrasebook.Text
