/-!
# Character classes as intervals

A class of characters is the list of its intervals of code points, in increasing order.

* `Ranges.contains` — membership, which stops at the first interval above the code point.
* `Ranges.contains_mem` — a member lies in one of the intervals.
-/

namespace Phrasebook.Text

/-- A character class: its intervals of code points, in increasing order and apart. -/
abbrev Ranges := List (Nat × Nat)

/-- Whether a code point lies in the class. -/
def Ranges.contains : Ranges → Nat → Bool
  | [], _ => false
  | (lo, hi) :: rest, n => if n < lo then false else if n ≤ hi then true else contains rest n

theorem Ranges.contains_mem {r : Ranges} {n : Nat} (h : r.contains n = true) :
    ∃ p ∈ r, p.1 ≤ n ∧ n ≤ p.2 := by
  induction r with
  | nil => simp [Ranges.contains] at h
  | cons p rest ih =>
    obtain ⟨lo, hi⟩ := p
    simp only [Ranges.contains] at h
    split at h
    · simp at h
    · split at h
      · exact ⟨(lo, hi), by simp, by simp only; omega, by simp only; omega⟩
      · obtain ⟨q, hq, hl, hr⟩ := ih h
        exact ⟨q, List.mem_cons_of_mem _ hq, hl, hr⟩

end Phrasebook.Text
