import Phrasebook.Proofs.Text.Upper

/-!
# Marks are no letters and no digits

Two ordered classes are compared in one walk through both of them, so that the tables are gone
through once and not interval against interval:

* `Ranges.apartWithin`, `Ranges.not_contains_of_apart` — the walk, and that it finds every character
  that the two classes share;
* `not_isLetterOrDigit_of_isCombiningMark` — no combining mark is a letter or a decimal digit.
-/

namespace Phrasebook.Text

/-- Whether the intervals of two ordered classes lie apart, by a walk of so many steps in which the
lower one of the two first intervals is passed over. -/
def Ranges.apartWithin : Nat → Ranges → Ranges → Bool
  | 0, _, _ => false
  | _ + 1, [], _ => true
  | _ + 1, _ :: _, [] => true
  | n + 1, p :: r, q :: s =>
    if p.2.blt q.1 then apartWithin n r (q :: s) else q.2.blt p.1 && apartWithin n (p :: r) s

/-- A walk to the end has met every pair of intervals: an interval that is passed over lies below the
first interval of the other class, and so below all of them. -/
theorem Ranges.lt_or_lt_of_apartWithin (steps : Nat) :
    ∀ {r s : Ranges} {start other : Nat}, r.orderedFrom start = true → s.orderedFrom other = true →
      apartWithin steps r s = true → ∀ p ∈ r, ∀ q ∈ s, p.2 < q.1 ∨ q.2 < p.1 := by
  induction steps with
  | zero =>
    intro r s start other _ _ h
    exact absurd h Bool.false_ne_true
  | succ n ih =>
    intro r s start other hr hs h
    cases r with
    | nil => exact List.forall_mem_nil _
    | cons p r =>
      cases s with
      | nil => exact fun _ _ => List.forall_mem_nil _
      | cons q s =>
        have hr' := hr
        have hs' := hs
        simp only [orderedFrom, Bool.and_eq_true, decide_eq_true_eq] at hr' hs'
        rw [apartWithin] at h
        split at h
        · rename_i hlt
          rw [Nat.blt_eq] at hlt
          refine List.forall_mem_cons.mpr ⟨fun q' hq' => .inl ?_, ih hr'.2 hs h⟩
          rcases List.mem_cons.mp hq' with rfl | hq'
          · exact hlt
          · have hbound := start_le_of_mem hs'.2 q' hq'
            omega
        · rw [Bool.and_eq_true, Nat.blt_eq] at h
          have hrest := ih hr hs'.2 h.2
          intro p' hp'
          refine List.forall_mem_cons.mpr ⟨.inr ?_, hrest p' hp'⟩
          rcases List.mem_cons.mp hp' with rfl | hp'
          · exact h.1
          · have hbound := start_le_of_mem hr'.2 p' hp'
            omega

/-- **Classes that lie apart share no character.** -/
theorem Ranges.not_contains_of_apart {steps : Nat} {r s : Ranges} (hr : r.orderedFrom 0 = true)
    (hs : s.orderedFrom 0 = true) (h : apartWithin steps r s = true) {n : Nat}
    (hn : r.contains n = true) : s.contains n = false := by
  rw [← Bool.not_eq_true]
  intro hn'
  obtain ⟨p, hp, hlo, hhi⟩ := Ranges.contains_mem hn
  obtain ⟨q, hq, hlo', hhi'⟩ := Ranges.contains_mem hn'
  have hpq := lt_or_lt_of_apartWithin steps hr hs h p hp q hq
  omega

/-- The tables of marks, letters and digits have fewer intervals together than the walk has steps. -/
theorem combiningMarks_apart :
    combiningMarks.orderedFrom 0 = true ∧ decimalDigits.orderedFrom 0 = true ∧
      Ranges.apartWithin 1000 combiningMarks letters = true ∧
      Ranges.apartWithin 1000 combiningMarks decimalDigits = true := by
  decide +kernel

/-- **No combining mark is a letter or a decimal digit.** -/
theorem not_isLetterOrDigit_of_isCombiningMark {c : Char} (h : isCombiningMark c = true) :
    isLetter c = false ∧ isDecimalDigit c = false := by
  obtain ⟨hmarks, hdigits, hletter, hdigit⟩ := combiningMarks_apart
  exact ⟨Ranges.not_contains_of_apart hmarks letters_ordered.1 hletter h,
    Ranges.not_contains_of_apart hmarks hdigits hdigit h⟩

end Phrasebook.Text
