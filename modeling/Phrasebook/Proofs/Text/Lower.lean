import Phrasebook.Proofs.Text.Upper
import Phrasebook.Text.Basic
import Phrasebook.Text.Lower

/-!
# Lower case and plain words

Whether the lower case of a text is a given word of ASCII characters can be told from the ASCII
letters of the text alone, because the lower case of no other character is made of ASCII characters.
There is one exception, the Kelvin sign with its `k`, so the word must not have this letter:

* `foreign`, `isForeign` — the characters that such a word does not have;
* `lowerMap_ascii`, `lowerMap_other` — the lower case of ASCII characters, and of all others;
* `LowerCase.eq_iff` — the lower case of a text is the word exactly when the text is, with its ASCII
  letters in lower case.
-/

namespace Phrasebook.Text

/-- All characters beyond ASCII, and `k`. -/
def foreign : Ranges :=
  [(0x6b, 0x6b), (0x80, 0xd7ff), (0xe000, 0x10ffff)]

/-- A character beyond ASCII, or `k`. -/
def isForeign (c : Char) : Bool :=
  foreign.contains c.toNat

theorem foreign_ordered : foreign.orderedFrom 0 = true := by
  decide

theorem isForeign_of_le {c : Char} (h : 128 ≤ c.toNat) : isForeign c = true := by
  have hvalid : c.toNat < 0xd800 ∨ 0xdfff < c.toNat ∧ c.toNat < 0x110000 := c.valid
  rcases hvalid with hlow | ⟨hhigh, hlast⟩
  · exact Ranges.contains_of_mem (p := (0x80, 0xd7ff)) foreign_ordered (by decide) h (by omega)
  · exact Ranges.contains_of_mem (p := (0xe000, 0x10ffff)) foreign_ordered (by decide) (by omega)
      (by omega)

/-- A number in the class is the code point of a character in it. -/
theorem isForeign_ofNat {n : Nat} (h : foreign.contains n = true) :
    isForeign (Char.ofNat n) = true := by
  have hvalid : n.isValidChar := by
    obtain ⟨p, hp, hlo, hhi⟩ := Ranges.contains_mem h
    have hbounds : ∀ p ∈ foreign, p.2 < 0xd800 ∨ 0xdfff < p.1 ∧ p.2 < 0x110000 := by decide
    have hp' := hbounds p hp
    unfold Nat.isValidChar
    omega
  rw [isForeign, Point.toNat_ofNat_of_valid hvalid]
  exact h

/-! ### The lower case of a character -/

theorem lowerMap_ascii_ofNat :
    ∀ n ∈ List.range 128, lowerMap.apply (Char.ofNat n) = [(Char.ofNat n).toLower] := by
  decide +kernel

/-- **An ASCII character has its lower case in ASCII.** -/
theorem lowerMap_ascii {c : Char} (h : c.toNat < 128) : lowerMap.apply c = [c.toLower] := by
  have hall := lowerMap_ascii_ofNat c.toNat (List.mem_range.mpr h)
  rwa [Char.ofNat_toNat] at hall

/-- A run that moves characters beyond ASCII leaves them there, or makes a `k` of them. -/
theorem lowerRuns_foreign :
    ∀ r ∈ lowerRuns, r.last < 128 ∨ (r.landsWithin foreign || r.landsPointwise foreign) = true := by
  decide +kernel

theorem lowerExpansions_foreign :
    lowerExpansions.all (fun p => (p.2.map Char.ofNat).any isForeign) = true := by
  decide

/-- **The lower case of any other character** is not made of ASCII characters without `k`. -/
theorem lowerMap_other {c : Char} (h : 128 ≤ c.toNat) :
    ∃ d ∈ lowerMap.apply c, isForeign d = true := by
  unfold CaseMap.apply
  split
  · rename_i image hl
    obtain ⟨l₁, l₂, happ, -⟩ := List.lookup_eq_some_iff.mp hl
    have hmem : (c.toNat, image) ∈ lowerExpansions := by
      change (c.toNat, image) ∈ lowerMap.expansions
      rw [happ]
      exact List.mem_append_right l₁ List.mem_cons_self
    exact List.any_eq_true.mp (List.all_eq_true.mp lowerExpansions_foreign _ hmem)
  · split
    · rename_i run hr
      have hcovers := List.find?_some (p := fun r : CaseRun => r.covers c.toNat) hr
      have hlast : ¬ run.last < 128 := by
        simp only [CaseRun.covers, Bool.and_eq_true, decide_eq_true_eq] at hcovers
        omega
      have hland := (lowerRuns_foreign run (List.mem_of_find?_eq_some hr)).resolve_left hlast
      exact ⟨_, List.mem_singleton_self _,
        isForeign_ofNat (CaseRun.contains_image foreign_ordered hland hcovers)⟩
    · exact ⟨c, List.mem_singleton_self c, isForeign_of_le h⟩

/-! ### The lower case of a text -/

theorem toNat_toLower (c : Char) :
    c.toLower.toNat = if 65 ≤ c.toNat ∧ c.toNat ≤ 90 then c.toNat + 32 else c.toNat := by
  have hcapital : (c.val ≥ 'A'.val ∧ c.val ≤ 'Z'.val) ↔ 65 ≤ c.toNat ∧ c.toNat ≤ 90 := by
    rw [ge_iff_le, UInt32.le_iff_toNat_le, UInt32.le_iff_toNat_le]
    rfl
  by_cases h : 65 ≤ c.toNat ∧ c.toNat ≤ 90
  · delta Char.toLower
    rw [dif_pos (hcapital.mpr h), if_pos h]
    show (c.val + 32).toNat = c.val.toNat + 32
    have hsmall : c.val.toNat ≤ 90 := h.2
    rw [UInt32.toNat_add, Nat.mod_eq_of_lt]
    · rfl
    · show c.val.toNat + 32 < 4294967296
      omega
  · delta Char.toLower
    rw [dif_neg (mt hcapital.mp h), if_neg h]

theorem toLower_of_le {c : Char} (h : 128 ≤ c.toNat) : c.toLower = c := by
  rw [← Char.toNat_inj, toNat_toLower, if_neg (by omega)]

/-- A character below the small letters that is no letter is the lower case of itself alone. -/
theorem toLower_eq_iff {c d : Char} (hd : d.toNat < 65 ∨ 90 < d.toNat ∧ d.toNat < 97) :
    c.toLower = d ↔ c = d := by
  rw [← Char.toNat_inj, ← Char.toNat_inj, toNat_toLower]
  split <;> omega

theorem toList_lowerAscii (s : String) : (lowerAscii s).toList = s.toList.map Char.toLower := by
  rw [lowerAscii, String.toList_ofList]

theorem lowerAscii_append (s t : String) : lowerAscii (s ++ t) = lowerAscii s ++ lowerAscii t := by
  rw [← String.toList_inj, String.toList_append, toList_lowerAscii, toList_lowerAscii,
    toList_lowerAscii, String.toList_append, List.map_append]

theorem lowerAscii_eq_empty_iff {s : String} : lowerAscii s = "" ↔ s = "" := by
  rw [← String.toList_inj, ← String.toList_inj, toList_lowerAscii]
  exact List.map_eq_nil_iff

theorem lowerAscii_eq_dot_iff {s : String} : lowerAscii s = "." ↔ s = "." := by
  rw [← String.toList_inj, ← String.toList_inj, toList_lowerAscii]
  show s.toList.map Char.toLower = ['.'] ↔ s.toList = ['.']
  rw [List.map_eq_singleton_iff]
  constructor
  · rintro ⟨c, hs, hc⟩
    rw [hs, (toLower_eq_iff (by decide)).mp hc]
  · intro hs
    exact ⟨'.', hs, rfl⟩

/-- Every text has a lower case, whatever becomes of a sigma. -/
theorem lowerCase_flatMap (s : List Char) : LowerCase s (s.flatMap lowerMap.apply) := by
  induction s with
  | nil => exact .nil
  | cons c s ih => exact .cons c ih

/-- **The lower case of a text is a plain word** exactly when the text is this word, with its ASCII
letters in lower case. -/
theorem LowerCase.eq_iff {s t : List Char} (h : LowerCase s t) :
    ∀ {w : List Char}, (∀ c ∈ w, isForeign c = false) → (t = w ↔ s.map Char.toLower = w) := by
  -- a foreign character in either text tells it from the word
  have hforeign : ∀ {t w : List Char}, (∀ c ∈ w, isForeign c = false) →
      (∃ d ∈ t, isForeign d = true) → t ≠ w := by
    rintro t w hw ⟨d, hd, hforeign⟩ rfl
    rw [hw d hd] at hforeign
    exact absurd hforeign Bool.false_ne_true
  induction h with
  | nil => exact fun _ => Iff.rfl
  | @cons s t c _ ih =>
    intro w hw
    by_cases hc : c.toNat < 128
    · rw [lowerMap_ascii hc, List.map_cons, List.singleton_append]
      cases w with
      | nil => simp
      | cons d w =>
        rw [List.cons.injEq, List.cons.injEq, ih (List.forall_mem_cons.mp hw).2]
    · rw [Nat.not_lt] at hc
      obtain ⟨d, hd, hforeignd⟩ := lowerMap_other hc
      refine iff_of_false (hforeign hw ⟨d, List.mem_append_left t hd, hforeignd⟩) ?_
      refine hforeign hw ⟨c, ?_, isForeign_of_le hc⟩
      rw [List.map_cons, toLower_of_le hc]
      exact List.mem_cons_self
  | finalSigma _ _ =>
    intro w hw
    exact iff_of_false (hforeign hw ⟨_, List.mem_cons_self, by decide⟩)
      (hforeign hw ⟨_, List.mem_cons_self, by decide⟩)

end Phrasebook.Text
