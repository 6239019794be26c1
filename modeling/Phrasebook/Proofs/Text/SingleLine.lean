import Mathlib.Data.List.TakeWhile
import Phrasebook.Proofs.CSharp.Literal
import Phrasebook.Proofs.Text.Terminal

/-!
# Texts on a single line

A message is shown on one line if it has no CR and no LF in it.

* `SingleLine` — a text without CR and LF, and `singleLine_append`, `singleLine_ofString`;
* `singleLine_oneLine` — what folding a text into one line is for;
* `singleLine_shown_iff` — showing a message neither breaks its line nor joins two of them;
* `splitOn_unlines_of_singleLine` — messages on single lines come back line by line.
-/

namespace Phrasebook

open Phrasebook.Text

/-- A code point that ends no line of a message. -/
def Point.inLine (p : Point) : Prop :=
  p ≠ .char '\r' ∧ p ≠ .char '\n'

instance (p : Point) : Decidable p.inLine :=
  inferInstanceAs (Decidable (_ ∧ _))

/-- A text without CR and without LF. -/
def SingleLine (t : Text) : Prop :=
  ∀ p ∈ t, p.inLine

instance (t : Text) : Decidable (SingleLine t) :=
  inferInstanceAs (Decidable (∀ p ∈ t, p.inLine))

theorem inLine_char {c : Char} : (Point.char c).inLine ↔ c ≠ '\r' ∧ c ≠ '\n' := by
  rw [Point.inLine, ne_eq, ne_eq, Point.char.injEq, Point.char.injEq]

theorem inLine_half (h : Half) : (Point.half h).inLine :=
  ⟨Point.noConfusion, Point.noConfusion⟩

theorem singleLine_nil : SingleLine [] :=
  List.forall_mem_nil _

@[simp] theorem singleLine_cons {p : Point} {t : Text} :
    SingleLine (p :: t) ↔ p.inLine ∧ SingleLine t :=
  List.forall_mem_cons

@[simp] theorem singleLine_append {s t : Text} :
    SingleLine (s ++ t) ↔ SingleLine s ∧ SingleLine t :=
  List.forall_mem_append

theorem singleLine_ofChars {s : List Char} :
    SingleLine (ofChars s) ↔ ∀ c ∈ s, c ≠ '\r' ∧ c ≠ '\n' := by
  rw [SingleLine, ofChars, List.forall_mem_map]
  exact forall₂_congr fun c _ => inLine_char

theorem singleLine_ofString {s : String} :
    SingleLine (ofString s) ↔ ∀ c ∈ s.toList, c ≠ '\r' ∧ c ≠ '\n' :=
  singleLine_ofChars

/-- For a string that is written out, its characters decide. -/
theorem singleLine_ofList {s : List Char} (h : (s.all fun c => c != '\r' && c != '\n') = true) :
    SingleLine (ofString (String.ofList s)) := by
  rw [singleLine_ofString, String.toList_ofList]
  intro c hc
  have hin := List.all_eq_true.mp h c hc
  rwa [Bool.and_eq_true, bne_iff_ne, bne_iff_ne] at hin

@[simp] theorem singleLine_ofString_append {s t : String} :
    SingleLine (ofString (s ++ t)) ↔ SingleLine (ofString s) ∧ SingleLine (ofString t) := by
  rw [ofString_append, singleLine_append]

/-- **What is folded into one line** is on a single line. -/
theorem singleLine_oneLine (s : String) : SingleLine (ofString (oneLine s)) :=
  singleLine_ofString.mpr (oneLine_no_newline s)

/-! ### Messages as they are shown -/

/-- Halves are spelled out without a line end. -/
theorem singleLine_spelled_iff {t : Text} : SingleLine (ofString t.spelled) ↔ SingleLine t := by
  rw [spelled, ofString, String.toList_ofList]
  induction t with
  | nil => exact Iff.rfl
  | cons p rest ih =>
    have hp : SingleLine (ofChars p.spelled) ↔ p.inLine := by
      cases p with
      | char c => exact List.forall_mem_singleton
      | half h =>
        refine iff_of_true (singleLine_ofChars.mpr ?_) (inLine_half h)
        simp only [Point.spelled, List.forall_mem_cons]
        refine ⟨by decide, by decide, fun c hc => ?_⟩
        have hend := (CSharp.StringLiteral.hex4_plain c hc).2.2
        exact ⟨fun hcr => by simp [hcr, isLineEnd] at hend,
          fun hlf => by simp [hlf, isLineEnd] at hend⟩
    have happend : ofChars (List.flatMap Point.spelled (p :: rest)) =
        ofChars p.spelled ++ ofChars (rest.flatMap Point.spelled) := by
      rw [List.flatMap_cons, ofChars, List.map_append]
      rfl
    rw [happend, singleLine_append, singleLine_cons, hp, ih]

/-- A parameter or the letter of a control sequence ends no line. -/
theorem inLine_of_isParameter {p : Point} (h : isParameter p = true ∨ isFinal p = true) :
    p.inLine := by
  cases p with
  | half half => exact inLine_half half
  | char c =>
    rw [inLine_char]
    constructor
    · rintro rfl
      exact absurd h (by decide)
    · rintro rfl
      exact absurd h (by decide)

/-- No line ends in a control sequence. -/
theorem singleLine_of_sequence {t after : Text} (h : sequenceEnd? t = some after) :
    SingleLine t ↔ SingleLine after := by
  obtain ⟨body, p, rfl, hbody, hfinal⟩ := sequenceEnd?_eq_some_iff.mp h
  have hparameters : SingleLine (body.takeWhile isParameter) := fun q hq =>
    inLine_of_isParameter (.inl (List.mem_takeWhile_imp hq))
  have hsplit : SingleLine body ↔ SingleLine after := by
    rw [← List.takeWhile_append_dropWhile (p := isParameter) (l := body), hbody, singleLine_append,
      singleLine_cons]
    exact ⟨fun hall => hall.2.2,
      fun hafter => ⟨hparameters, inLine_of_isParameter (.inr hfinal), hafter⟩⟩
  rw [singleLine_cons, singleLine_cons, hsplit]
  exact ⟨fun hall => hall.2.2, fun hafter => ⟨by decide, by decide, hafter⟩⟩

/-- What is printed of a text is on a single line exactly when the text is. -/
theorem singleLine_printed_iff (t : Text) : SingleLine (printed t) ↔ SingleLine t := by
  match t with
  | [] => rw [printed]
  | p :: rest =>
    cases h : sequenceEnd? (p :: rest) with
    | some after =>
      rw [printed_of_sequence h, singleLine_of_sequence h]
      exact singleLine_printed_iff after
    | none =>
      rw [printed_cons h, singleLine_cons, singleLine_cons, singleLine_printed_iff rest]
termination_by t.length
decreasing_by
  · exact Nat.lt_succ_self _
  · exact sequenceEnd?_length _ _ h

/-- **A message is shown on a single line** exactly when it is on one. -/
theorem singleLine_shown_iff {t : Text} : SingleLine (ofString (shown t)) ↔ SingleLine t :=
  singleLine_spelled_iff.trans (singleLine_printed_iff t)

/-- Messages on single lines come back, with an empty tail. -/
theorem splitOn_unlines_of_singleLine {lines : List Text} (h : ∀ line ∈ lines, SingleLine line) :
    (unlines lines).splitOn (.char '\n') = lines ++ [[]] :=
  splitOn_unlines_of_not_mem fun line hline hmem => (h line hline _ hmem).2 rfl

end Phrasebook
