import Phrasebook.Text.Case
import Phrasebook.Text.Digit
import Phrasebook.Text.Letter
import Phrasebook.Text.Mark

/-!
# What upper-casing makes of letters and digits

A whole run of a case mapping is judged by its two ends, so that finitely many comparisons decide
what the mapping does to every character:

* `Ranges.contains_of_mem` — in an ordered class, every member of an interval is found;
* `CaseRun.not_contains`, `CaseRun.contains_image` — where the points and the images of a run lie;
* `upper_letter` — the upper case of a letter begins with a letter that is no small ASCII letter
  and goes on with letters and combining marks;
* `upper_digit` — a decimal digit is its own upper case.
-/

namespace Phrasebook.Text

/-! ### Ordered classes -/

/-- Whether the intervals follow each other in increasing order, the first one not below
`start`. -/
def Ranges.orderedFrom : Nat → Ranges → Bool
  | _, [] => true
  | start, (lo, hi) :: rest => start ≤ lo && lo ≤ hi && orderedFrom (hi + 1) rest

theorem Ranges.start_le_of_mem {r : Ranges} :
    ∀ {start : Nat}, r.orderedFrom start = true → ∀ p ∈ r, start ≤ p.1 ∧ p.1 ≤ p.2 := by
  induction r with
  | nil => intro start _ p hp; simp at hp
  | cons q rest ih =>
    intro start h p hp
    simp only [orderedFrom, Bool.and_eq_true, decide_eq_true_eq] at h
    obtain ⟨⟨hlo, hq⟩, hrest⟩ := h
    rcases List.mem_cons.mp hp with rfl | hp
    · exact ⟨hlo, hq⟩
    · obtain ⟨hp1, hp2⟩ := ih hrest p hp
      exact ⟨by omega, hp2⟩

/-- **In an ordered class every member of an interval is found.**  The search stops at the first
interval above the code point, and the intervals behind it are above it as well. -/
theorem Ranges.contains_of_mem {r : Ranges} {n : Nat} {p : Nat × Nat} :
    ∀ {start : Nat}, r.orderedFrom start = true → p ∈ r → p.1 ≤ n → n ≤ p.2 →
      r.contains n = true := by
  induction r with
  | nil => intro start _ hp; simp at hp
  | cons q rest ih =>
    intro start h hp hlo hhi
    simp only [orderedFrom, Bool.and_eq_true, decide_eq_true_eq] at h
    obtain ⟨⟨hstart, hq⟩, hrest⟩ := h
    rw [Ranges.contains]
    rcases List.mem_cons.mp hp with rfl | hp
    · rw [if_neg (by omega), if_pos hhi]
    · have hbound := Ranges.start_le_of_mem hrest p hp
      rw [if_neg (by omega), if_neg (by omega)]
      exact ih hrest hp hlo hhi

/-- The letters are ordered, and no interval of them touches the code points that are no
characters. -/
theorem letters_ordered :
    letters.orderedFrom 0 = true ∧
      ∀ p ∈ letters, p.2 < 0xd800 ∨ 0xdfff < p.1 ∧ p.2 < 0x110000 := by
  decide +kernel

/-- A number in an interval of letters is the code point of a letter. -/
theorem isLetter_ofNat {p : Nat × Nat} {n : Nat} (hp : p ∈ letters) (hlo : p.1 ≤ n)
    (hhi : n ≤ p.2) : (Char.ofNat n).toNat = n ∧ isLetter (Char.ofNat n) = true := by
  have hvalid : n.isValidChar := by
    have hv := letters_ordered.2 p hp
    unfold Nat.isValidChar
    omega
  have hnat : (Char.ofNat n).toNat = n := by
    rw [Char.ofNat, dif_pos hvalid]
    rfl
  refine ⟨hnat, ?_⟩
  rw [isLetter, hnat]
  exact Ranges.contains_of_mem letters_ordered.1 hp hlo hhi

/-! ### Runs of a case mapping -/

/-- The code points that a run can cover. -/
def CaseRun.points (r : CaseRun) : List Nat :=
  (List.range ((r.last - r.first) / r.step + 1)).map fun k => r.first + r.step * k

theorem CaseRun.mem_points {r : CaseRun} {n : Nat} (h : r.covers n = true) : n ∈ r.points := by
  simp only [CaseRun.covers, Bool.and_eq_true, decide_eq_true_eq, beq_iff_eq] at h
  obtain ⟨⟨hfirst, hlast⟩, hmod⟩ := h
  have hdiv := Nat.div_add_mod (n - r.first) r.step
  have hle : (n - r.first) / r.step ≤ (r.last - r.first) / r.step :=
    Nat.div_le_div_right (by omega)
  refine List.mem_map.mpr ⟨(n - r.first) / r.step, List.mem_range.mpr (by omega), ?_⟩
  omega

/-- Whether the run keeps away from every interval of the class. -/
def CaseRun.avoids (r : CaseRun) (cls : Ranges) : Bool :=
  cls.all fun p => p.2.blt r.first || r.last.blt p.1

theorem CaseRun.not_contains {r : CaseRun} {cls : Ranges} {n : Nat} (ha : r.avoids cls = true)
    (h : r.covers n = true) : cls.contains n = false := by
  rw [← Bool.not_eq_true]
  intro hc
  obtain ⟨p, hp, hlo, hhi⟩ := Ranges.contains_mem hc
  have hp' := List.all_eq_true.mp ha p hp
  simp only [CaseRun.covers, Bool.and_eq_true, decide_eq_true_eq] at h
  simp only [Bool.or_eq_true, Nat.blt_eq] at hp'
  omega

/-- The image of a code point that a run covers lies between the images of the run's ends. -/
theorem CaseRun.image_mem {r : CaseRun} {n : Nat} (h : r.covers n = true) :
    (r.first + r.shift).toNat ≤ r.image n ∧ r.image n ≤ (r.last + r.shift).toNat := by
  simp only [CaseRun.covers, Bool.and_eq_true, decide_eq_true_eq] at h
  obtain ⟨⟨hfirst, hlast⟩, -⟩ := h
  unfold CaseRun.image
  omega

/-- Whether the images of the run's ends lie in one interval of the class. -/
def CaseRun.landsWithin (r : CaseRun) (cls : Ranges) : Bool :=
  cls.any fun p => p.1.ble (r.first + r.shift).toNat && (r.last + r.shift).toNat.ble p.2

/-- Whether the images of the run lie in the class one by one.  Images with a gap between them
may lie in several intervals. -/
def CaseRun.landsPointwise (r : CaseRun) (cls : Ranges) : Bool :=
  r.points.all fun n => cls.contains (r.image n)

theorem CaseRun.contains_image {r : CaseRun} {cls : Ranges} {n : Nat}
    (ho : cls.orderedFrom 0 = true) (hl : (r.landsWithin cls || r.landsPointwise cls) = true)
    (h : r.covers n = true) : cls.contains (r.image n) = true := by
  rw [Bool.or_eq_true] at hl
  rcases hl with hany | hall
  · obtain ⟨p, hp, hb⟩ := List.any_eq_true.mp hany
    simp only [Bool.and_eq_true, Nat.ble_eq] at hb
    obtain ⟨hlo, hhi⟩ := CaseRun.image_mem h
    exact Ranges.contains_of_mem ho hp (by omega) (by omega)
  · exact List.all_eq_true.mp hall n (CaseRun.mem_points h)

/-! ### Runs and expansions of the upper case mapping -/

/-- Whether some characters begin with a letter that is no small ASCII letter and go on with
letters and combining marks. -/
def isCapitalised : List Char → Bool
  | [] => false
  | c :: rest => isLetter c && !c.isLower && rest.all fun d => isLetter d || isCombiningMark d

/-- What stands for a character that has several is capitalised, and the character is no digit. -/
theorem upperExpansions_capitalised :
    ∀ p ∈ upperExpansions, isCapitalised (p.2.map Char.ofNat) = true ∧
      decimalDigits.contains p.1 = false := by
  decide +kernel

/-- Some runs move letter numbers and enclosed letters; all others move letters to letters.  None
of them leads to a small ASCII letter, and none moves digits. -/
theorem upperRuns_letters :
    ∀ r ∈ upperRuns,
      (r.landsWithin letters || (r.avoids letters || r.landsPointwise letters)) = true ∧
      ((r.last + r.shift).toNat < 97 ∨ 122 < (r.first + r.shift).toNat) ∧
      r.avoids decimalDigits = true := by
  decide +kernel

theorem isLower_iff (c : Char) : c.isLower = true ↔ 97 ≤ c.toNat ∧ c.toNat ≤ 122 := by
  show (decide (c.val ≥ 'a'.val) && decide (c.val ≤ 'z'.val)) = true ↔ _
  simp only [Bool.and_eq_true, decide_eq_true_eq, ge_iff_le, UInt32.le_iff_toNat_le]
  rfl

/-- The image of a letter that a run covers. -/
theorem isCapitalised_image {r : CaseRun} {c : Char} (hr : r ∈ upperRuns)
    (hc : r.covers c.toNat = true) (h : isLetter c = true) :
    isCapitalised [Char.ofNat (r.image c.toNat)] = true := by
  have hland : (r.landsWithin letters || r.landsPointwise letters) = true := by
    have hor := (upperRuns_letters r hr).1
    rw [Bool.or_eq_true, Bool.or_eq_true] at hor
    rw [Bool.or_eq_true]
    rcases hor with hwithin | havoid | hpoints
    · exact .inl hwithin
    · rw [isLetter, CaseRun.not_contains havoid hc] at h
      exact absurd h Bool.false_ne_true
    · exact .inr hpoints
  obtain ⟨p, hp, hlo, hhi⟩ := Ranges.contains_mem (CaseRun.contains_image letters_ordered.1 hland hc)
  obtain ⟨hnat, hletter⟩ := isLetter_ofNat hp hlo hhi
  have hlower : (Char.ofNat (r.image c.toNat)).isLower = false := by
    have hends := (upperRuns_letters r hr).2.1
    obtain ⟨hfirst, hlast⟩ := CaseRun.image_mem hc
    rw [← Bool.not_eq_true, isLower_iff, hnat]
    omega
  simp [isCapitalised, hletter, hlower]

/-- The small ASCII letters are moved by a run. -/
theorem exists_run_of_isLower {c : Char} (h : c.isLower = true) :
    ∃ r ∈ upperRuns, r.covers c.toNat = true := by
  obtain ⟨hlo, hhi⟩ := (isLower_iff c).mp h
  refine ⟨⟨0x61, 0x7a, 1, -32⟩, List.mem_cons_self, ?_⟩
  simp only [CaseRun.covers, Bool.and_eq_true, decide_eq_true_eq, beq_iff_eq]
  omega

/-! ### The upper case of letters and digits -/

/-- **The upper case of a letter** begins with a letter that is no small ASCII letter and goes on
with letters and combining marks. -/
theorem upper_letter {c : Char} (h : isLetter c = true) : isCapitalised (upper c) = true := by
  unfold upper CaseMap.apply
  split
  · rename_i image hl
    obtain ⟨l₁, l₂, happ, -⟩ := List.lookup_eq_some_iff.mp hl
    refine (upperExpansions_capitalised (c.toNat, image) ?_).1
    change (c.toNat, image) ∈ upperMap.expansions
    rw [happ]
    exact List.mem_append_right l₁ List.mem_cons_self
  · split
    · rename_i run hr
      have hcovers := List.find?_some (p := fun r : CaseRun => r.covers c.toNat) hr
      exact isCapitalised_image (List.mem_of_find?_eq_some hr) hcovers h
    · rename_i hr
      have hlower : c.isLower = false := by
        rw [← Bool.not_eq_true]
        intro hl
        obtain ⟨r, hmem, hcovers⟩ := exists_run_of_isLower hl
        exact List.find?_eq_none.mp hr r hmem hcovers
      simp [isCapitalised, h, hlower]

/-- **A decimal digit is its own upper case.** -/
theorem upper_digit {c : Char} (h : isDecimalDigit c = true) : upper c = [c] := by
  unfold upper CaseMap.apply
  split
  · rename_i image hl
    obtain ⟨l₁, l₂, happ, -⟩ := List.lookup_eq_some_iff.mp hl
    have hmem : (c.toNat, image) ∈ upperMap.expansions := by
      rw [happ]
      exact List.mem_append_right l₁ List.mem_cons_self
    rw [isDecimalDigit, (upperExpansions_capitalised (c.toNat, image) hmem).2] at h
    exact absurd h Bool.false_ne_true
  · split
    · rename_i run hr
      have havoid := (upperRuns_letters run (List.mem_of_find?_eq_some hr)).2.2
      have hcovers := List.find?_some (p := fun r : CaseRun => r.covers c.toNat) hr
      rw [isDecimalDigit, CaseRun.not_contains havoid hcovers] at h
      exact absurd h Bool.false_ne_true
    · rfl

end Phrasebook.Text
