import Mathlib.Data.List.Infix
import Phrasebook.Text.Terminal

/-!
# What printing takes away

* `sequenceEnd?_eq_some_iff` — what a control sequence is made of;
* `Uncontrolled`, `Uncontrolled.of_infix` — a text in which no control sequence starts;
* `printed_sublist` — printing leaves out code points, and adds or moves none;
* `printed_eq_self_iff` — a text is printed as it is exactly when no control sequence starts in it.
-/

namespace Phrasebook.Text

/-- No control sequence starts in the text. -/
def Uncontrolled (t : Text) : Prop :=
  ∀ before after, t = before ++ after → sequenceEnd? after = none

theorem uncontrolled_iff_tails {t : Text} :
    Uncontrolled t ↔ ∀ after ∈ t.tails, sequenceEnd? after = none := by
  constructor
  · intro h after hafter
    obtain ⟨before, heq⟩ := (List.mem_tails after t).mp hafter
    exact h before after heq.symm
  · intro h before after heq
    exact h after ((List.mem_tails after t).mpr ⟨before, heq.symm⟩)

instance (t : Text) : Decidable (Uncontrolled t) :=
  decidable_of_iff (∀ after ∈ t.tails, sequenceEnd? after = none) uncontrolled_iff_tails.symm

variable {t after : Text}

/-- What a control sequence is made of. -/
theorem sequenceEnd?_eq_some_iff :
    sequenceEnd? t = some after ↔
      ∃ body p, t = .char '\x1b' :: .char '[' :: body ∧
        body.dropWhile isParameter = p :: after ∧ isFinal p = true := by
  constructor
  · intro h
    unfold sequenceEnd? at h
    split at h
    · rename_i body
      split at h
      · exact absurd h (by simp)
      · rename_i p rest hbody
        split at h
        · rename_i hfinal
          rw [Option.some.injEq] at h
          exact ⟨body, p, rfl, h ▸ hbody, hfinal⟩
        · exact absurd h (by simp)
    · exact absurd h (by simp)
  · rintro ⟨body, p, rfl, hbody, hfinal⟩
    unfold sequenceEnd?
    simp only [hbody]
    exact if_pos hfinal

/-- A control sequence stays one, whatever stands behind it. -/
theorem sequenceEnd?_append (h : sequenceEnd? t = some after) (rest : Text) :
    sequenceEnd? (t ++ rest) = some (after ++ rest) := by
  obtain ⟨body, p, rfl, hbody, hfinal⟩ := sequenceEnd?_eq_some_iff.mp h
  refine sequenceEnd?_eq_some_iff.mpr ⟨body ++ rest, p, rfl, ?_, hfinal⟩
  rw [List.dropWhile_append, hbody]
  rfl

/-- Where a control sequence starts in a part, it starts in the whole. -/
theorem Uncontrolled.of_infix {s : Text} (h : Uncontrolled t) (hs : s <:+: t) : Uncontrolled s := by
  obtain ⟨front, back, rfl⟩ := hs
  rintro before after rfl
  cases hend : sequenceEnd? after with
  | none => rfl
  | some rest =>
    have hnone := h (front ++ before) (after ++ back) (by simp only [List.append_assoc])
    rw [sequenceEnd?_append hend back] at hnone
    exact absurd hnone (by simp)

/-- What follows a control sequence is an end of the text. -/
theorem sequenceEnd?_suffix (h : sequenceEnd? t = some after) : after <:+ t := by
  obtain ⟨body, p, rfl, hbody, -⟩ := sequenceEnd?_eq_some_iff.mp h
  have hafter : after <:+ body.dropWhile isParameter := hbody ▸ List.suffix_cons p after
  exact (hafter.trans (List.dropWhile_suffix isParameter)).trans
    ((List.suffix_cons _ body).trans (List.suffix_cons _ _))

/-- A control sequence is left out. -/
theorem printed_of_sequence {p : Point} {rest : Text} (h : sequenceEnd? (p :: rest) = some after) :
    printed (p :: rest) = printed after := by
  rw [printed]
  split
  · rename_i other hother
    rw [h, Option.some.injEq] at hother
    rw [hother]
  · rename_i hnone
    rw [h] at hnone
    exact absurd hnone (by simp)

/-- Any other code point stays. -/
theorem printed_cons {p : Point} {rest : Text} (h : sequenceEnd? (p :: rest) = none) :
    printed (p :: rest) = p :: printed rest := by
  rw [printed]
  split
  · rename_i other hother
    rw [h] at hother
    exact absurd hother (by simp)
  · rfl

/-- **Printing leaves out code points**, and adds or moves none. -/
theorem printed_sublist (t : Text) : (printed t).Sublist t := by
  match t with
  | [] =>
    rw [printed]
  | p :: rest =>
    cases h : sequenceEnd? (p :: rest) with
    | some after =>
      rw [printed_of_sequence h]
      exact (printed_sublist after).trans (sequenceEnd?_suffix h).sublist
    | none =>
      rw [printed_cons h]
      exact (printed_sublist rest).cons_cons p
termination_by t.length
decreasing_by
  · exact Nat.lt_succ_self _
  · exact sequenceEnd?_length _ _ h

/-- **A text is printed as it is** exactly when no control sequence starts in it. -/
theorem printed_eq_self_iff : printed t = t ↔ Uncontrolled t := by
  induction t with
  | nil =>
    refine ⟨fun _ before after h => ?_, fun _ => by rw [printed]⟩
    rw [(List.append_eq_nil_iff.mp h.symm).2]
    rfl
  | cons p rest ih =>
    cases h : sequenceEnd? (p :: rest) with
    | some after =>
      constructor
      · intro heq
        -- what is printed is no longer than what follows the sequence
        have hle := (printed_sublist after).length_le
        rw [← printed_of_sequence h, heq] at hle
        exact absurd (sequenceEnd?_length _ _ h) (Nat.not_lt.mpr hle)
      · intro hnone
        rw [hnone [] (p :: rest) rfl] at h
        exact absurd h (by simp)
    | none =>
      rw [printed_cons h, List.cons.injEq, ih]
      constructor
      · rintro ⟨-, hrest⟩ before after heq
        cases before with
        | nil => rw [← show p :: rest = after from heq, h]
        | cons first before =>
          rw [List.cons_append, List.cons.injEq] at heq
          exact hrest before after heq.2
      · intro hall
        exact ⟨rfl, fun before after heq =>
          hall (p :: before) after (by rw [heq, List.cons_append])⟩

/-- What is printed of a string is a string. -/
theorem exists_ofString_printed (s : String) :
    ∃ output, printed (ofString s) = ofString output := by
  obtain ⟨chars, -, heq⟩ := List.sublist_map_iff.mp (printed_sublist (ofString s))
  refine ⟨String.ofList chars, ?_⟩
  rw [heq, ofString, String.toList_ofList]
  rfl

end Phrasebook.Text
