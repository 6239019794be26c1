import Phrasebook.CSharp.StringLiteral
import Phrasebook.Proofs.Text.Lines

/-!
# String literals read back

Every code point is written between the quotes in one of four ways, and each of them can be read
on its own, whatever follows:

* `Written` — the four ways, and `written_encodePoint` — every code point is written in one;
* `decodeBody_append` — a written code point is read back in front of any text;
* `decode_encode` — the literal of a text stands for that text;
* `unbroken_encode` — no literal leaves its line.
-/

namespace Phrasebook.CSharp

open Phrasebook.Text

namespace StringLiteral

/-! ### Hexadecimal digits -/

/-- What the sixteen digits are not: the quote, the backslash and the line ends. -/
theorem hexDigit_plain :
    ∀ n, n < 16 → hexDigit n ≠ '"' ∧ hexDigit n ≠ '\\' ∧ isLineEnd (hexDigit n) = false := by
  decide

theorem hex4_plain {n : Nat} :
    ∀ c ∈ hex4 n, c ≠ '"' ∧ c ≠ '\\' ∧ isLineEnd c = false := by
  intro c hc
  simp only [hex4, List.mem_cons, List.not_mem_nil, or_false] at hc
  rcases hc with rfl | rfl | rfl | rfl
  · exact hexDigit_plain _ (Nat.mod_lt _ (by decide))
  · exact hexDigit_plain _ (Nat.mod_lt _ (by decide))
  · exact hexDigit_plain _ (Nat.mod_lt _ (by decide))
  · exact hexDigit_plain _ (Nat.mod_lt _ (by decide))

theorem hexNumber?_hex4 {n : Nat} (h : n < 0x10000) : hexNumber? (hex4 n) = some n := by
  have h1 := hexValue?_hexDigit (n / 4096 % 16) (Nat.mod_lt _ (by decide))
  have h2 := hexValue?_hexDigit (n / 256 % 16) (Nat.mod_lt _ (by decide))
  have h3 := hexValue?_hexDigit (n / 16 % 16) (Nat.mod_lt _ (by decide))
  have h4 := hexValue?_hexDigit (n % 16) (Nat.mod_lt _ (by decide))
  have hmap : (hex4 n).mapM hexValue? =
      some [n / 4096 % 16, n / 256 % 16, n / 16 % 16, n % 16] := by
    simp only [hex4, List.mapM_cons, List.mapM_nil, h1, h2, h3, h4]
    rfl
  rw [hexNumber?, hmap, Option.map_some, Option.some.injEq]
  simp only [List.foldl_cons, List.foldl_nil]
  omega

/-! ### The four ways to write a code point -/

/-- How a code point can stand between the quotes of a literal. -/
inductive Written : Point → Text → Prop
  | letter {c l : Char} : unescapeLetter? l = some c → l ≠ 'u' → isLineEnd l = false →
      Written (.char c) [.char '\\', .char l]
  | number {c : Char} : c.toNat < 0x10000 →
      Written (.char c) (ofChars ('\\' :: 'u' :: hex4 c.toNat))
  | plain {c : Char} : c ≠ '"' → c ≠ '\\' → isLineEnd c = false → Written (.char c) [.char c]
  | half (h : Half) : Written (.half h) [.half h]

theorem eq_some_of_ite {c d l letter : Char} {others : Option Char}
    (h : (if c = d then some letter else others) = some l) :
    (c = d ∧ letter = l) ∨ others = some l := by
  split at h
  · rename_i heq
    exact .inl ⟨heq, Option.some.inj h⟩
  · exact .inr h

/-- Reading the letter of a short escape gives back the character. -/
theorem unescapeLetter?_escapeLetter? {c l : Char} (h : escapeLetter? c = some l) :
    unescapeLetter? l = some c ∧ l ≠ 'u' ∧ isLineEnd l = false := by
  unfold escapeLetter? at h
  rcases eq_some_of_ite h with ⟨rfl, rfl⟩ | h
  · decide
  rcases eq_some_of_ite h with ⟨rfl, rfl⟩ | h
  · decide
  rcases eq_some_of_ite h with ⟨rfl, rfl⟩ | h
  · decide
  rcases eq_some_of_ite h with ⟨rfl, rfl⟩ | h
  · decide
  rcases eq_some_of_ite h with ⟨rfl, rfl⟩ | h
  · decide
  rcases eq_some_of_ite h with ⟨rfl, rfl⟩ | h
  · decide
  rcases eq_some_of_ite h with ⟨rfl, rfl⟩ | h
  · decide
  rcases eq_some_of_ite h with ⟨rfl, rfl⟩ | h
  · decide
  rcases eq_some_of_ite h with ⟨rfl, rfl⟩ | h
  · decide
  rcases eq_some_of_ite h with ⟨rfl, rfl⟩ | h
  · decide
  exact absurd h (by simp)

theorem toNat_lt_of_isLineEnd {c : Char} (h : isLineEnd c = true) : c.toNat < 0x10000 := by
  simp only [isLineEnd, Bool.or_eq_true, beq_iff_eq] at h
  rcases h with (((rfl | rfl) | rfl) | rfl) | rfl <;> decide

/-- **Every code point is written in one of the four ways.** -/
theorem written_encodePoint (p : Point) : Written p (encodePoint p) := by
  cases p with
  | half h => exact .half h
  | char c =>
    rw [encodePoint, encodeChar]
    cases hl : escapeLetter? c with
    | some l =>
      obtain ⟨hread, hu, hends⟩ := unescapeLetter?_escapeLetter? hl
      exact .letter hread hu hends
    | none =>
      simp only
      split
      · rename_i hcontrol
        rw [Bool.or_eq_true, decide_eq_true_eq] at hcontrol
        refine .number ?_
        rcases hcontrol with hlt | hends
        · omega
        · exact toNat_lt_of_isLineEnd hends
      · rename_i hcontrol
        rw [Bool.or_eq_true, not_or, Bool.not_eq_true (isLineEnd c)] at hcontrol
        refine .plain ?_ ?_ hcontrol.2
        · rintro rfl
          exact absurd hl (by decide)
        · rintro rfl
          exact absurd hl (by decide)

/-- None of the four ways leaves the line. -/
theorem Written.unbroken {p : Point} {t : Text} (h : Written p t) : Unbroken t := by
  cases h with
  | letter _ _ hends => exact unbroken_cons.mpr ⟨rfl, unbroken_cons.mpr ⟨hends, unbroken_nil⟩⟩
  | number _ =>
    rw [unbroken_ofChars, List.forall_mem_cons, List.forall_mem_cons]
    exact ⟨rfl, rfl, fun c hc => (hex4_plain c hc).2.2⟩
  | plain _ _ hends => exact unbroken_cons.mpr ⟨hends, unbroken_nil⟩
  | half _ => exact unbroken_cons.mpr ⟨rfl, unbroken_nil⟩

/-! ### Reading back -/

theorem decodeBody_letter {l : Char} (hu : l ≠ 'u') (rest : Text) :
    decodeBody (.char '\\' :: .char l :: rest) =
      match unescapeLetter? l with
      | some c => (decodeBody rest).map (.char c :: ·)
      | none => none := by
  rw [decodeBody.eq_def]
  split
  · rename_i heq
    exact absurd heq (by simp)
  · rename_i heq
    exact absurd heq (by simp)
  · rename_i heq
    simp only [List.cons.injEq, Point.char.injEq] at heq
    exact absurd heq.2.1 hu
  · rename_i heq
    simp only [List.cons.injEq, Point.char.injEq, true_and] at heq
    obtain ⟨hl, hrest⟩ := heq
    subst hl
    subst hrest
    rfl
  · rename_i hne heq
    rw [List.cons.injEq] at heq
    exact absurd heq.2.symm (hne _ _ heq.1.symm)

theorem decodeBody_plain {c : Char} (hq : c ≠ '"') (hb : c ≠ '\\') (hends : isLineEnd c = false)
    (rest : Text) : decodeBody (.char c :: rest) = (decodeBody rest).map (.char c :: ·) := by
  rw [decodeBody.eq_def]
  split
  · rename_i heq
    exact absurd heq (by simp)
  · rename_i heq
    simp only [List.cons.injEq, Point.char.injEq] at heq
    exact absurd heq.1 hq
  · rename_i heq
    simp only [List.cons.injEq, Point.char.injEq] at heq
    exact absurd heq.1 hb
  · rename_i heq
    simp only [List.cons.injEq, Point.char.injEq] at heq
    exact absurd heq.1 hb
  · rename_i heq
    rw [List.cons.injEq] at heq
    have hspecial : isSpecial (.char c) = false := by
      rw [isSpecial, hends, Bool.or_false]
      exact beq_false_of_ne hb
    rw [← heq.1, ← heq.2, hspecial]
    rfl

/-- **A written code point is read back**, whatever stands behind it. -/
theorem decodeBody_append {p : Point} {t : Text} (h : Written p t) (rest : Text) :
    decodeBody (t ++ rest) = (decodeBody rest).map (p :: ·) := by
  cases h with
  | letter hread hu _ =>
    rw [List.cons_append, List.cons_append, List.nil_append, decodeBody_letter hu, hread]
  | @number c hlt =>
    have hnumber := hexNumber?_hex4 hlt
    simp only [hex4] at hnumber
    show decodeBody (.char '\\' :: .char 'u' :: .char _ :: .char _ :: .char _ :: .char _ :: rest) = _
    rw [decodeBody, hnumber]
    simp only [Point.ofUnit_toNat]
  | plain hq hb hends => exact decodeBody_plain hq hb hends rest
  | half h => rfl

theorem decodeBody_encodeBody (value : Text) :
    decodeBody (encodeBody value ++ [.char '"']) = some value := by
  induction value with
  | nil => rfl
  | cons p rest ih =>
    show decodeBody ((encodePoint p ++ encodeBody rest) ++ [.char '"']) = _
    rw [List.append_assoc, decodeBody_append (written_encodePoint p), ih, Option.map_some]

/-- A literal is its body between two quotes. -/
theorem encode_eq (value : Text) : encode value = .char '"' :: (encodeBody value ++ [.char '"']) :=
  rfl

/-- **The literal of a text stands for that text.** -/
theorem decode_encode (value : Text) : decode (encode value) = some value := by
  rw [encode_eq, decode]
  exact decodeBody_encodeBody value

theorem unbroken_encodeBody (value : Text) : Unbroken (encodeBody value) := by
  induction value with
  | nil => exact unbroken_nil
  | cons p rest ih =>
    show Unbroken (encodePoint p ++ encodeBody rest)
    exact unbroken_append.mpr ⟨(written_encodePoint p).unbroken, ih⟩

/-- **No literal leaves its line.** -/
theorem unbroken_encode (value : Text) : Unbroken (encode value) := by
  have hquote : Unbroken [.char '"'] := unbroken_cons.mpr ⟨rfl, unbroken_nil⟩
  rw [encode_eq, unbroken_cons, unbroken_append]
  exact ⟨rfl, unbroken_encodeBody value, hquote⟩

end StringLiteral

end Phrasebook.CSharp
