import Phrasebook.Json5.StringBody
import Phrasebook.Proofs.Text.Lines

/-!
# Writing a JSON5 string

Each character of a string is written raw or by an escape.  How it may be written is stated here
apart from the reader:

* `Escape`, `Spelling` — what may follow a backslash, and the insides of strings, each with what it
  stands for;
* `Escape.stringBody_append`, `Spelling.stringBody_append` — the reader takes an escape, and the
  inside of a string, for what it stands for;
* `spelling_of_raw`, `exists_escape`, `exists_spelling` — what needs no escape, and that every text
  can be written between either kind of quotes.
-/

namespace Phrasebook.Json5

open Phrasebook.Text

/-- The two kinds of quotes. -/
def quotes : List Char :=
  ['"', '\x27']

/-- The letters of the short escapes, with the characters that they stand for. -/
def shortEscapes : List (Char × Char) :=
  [('b', '\x08'), ('f', '\x0c'), ('n', '\n'), ('r', '\r'), ('t', '\t'), ('v', '\x0b')]

/-- What may follow a backslash, with the character that is meant: the letter of a short escape, a
character that means nothing else there, or a number of two or four hexadecimal digits. -/
inductive Escape : List Char → Char → Prop
  | letter {l c : Char} (hletter : (l, c) ∈ shortEscapes) : Escape [l] c
  | itself {c : Char} (hletter : c ∉ shortEscapes.map Prod.fst) (hnumber : c ≠ 'x' ∧ c ≠ 'u')
      (hdigit : c.isDigit = false) (hends : isTerminator c = false) : Escape [c] c
  | byte {a b c : Char} (hnumber : hexNumber? [a, b] = some c.toNat) : Escape ['x', a, b] c
  | unit {a b d e c : Char} (hnumber : hexNumber? [a, b, d, e] = some c.toNat) :
      Escape ['u', a, b, d, e] c

/-- The insides of strings between quotes of one kind, with the characters that they stand for.
The escape with a zero takes no digit behind it. -/
inductive Spelling (quote : Char) : List Char → List Char → Prop
  | nil : Spelling quote [] []
  | raw {c : Char} {body chars : List Char} (hquote : c ≠ quote) (hbackslash : c ≠ '\\')
      (hends : c ≠ '\r' ∧ c ≠ '\n') (hbody : Spelling quote body chars) :
      Spelling quote (c :: body) (c :: chars)
  | escape {tail : List Char} {c : Char} {body chars : List Char} (hescape : Escape tail c)
      (hbody : Spelling quote body chars) : Spelling quote ('\\' :: tail ++ body) (c :: chars)
  | null {body chars : List Char} (hdigit : startsWithDigit body = false)
      (hbody : Spelling quote body chars) :
      Spelling quote ('\\' :: '0' :: body) ('\x00' :: chars)

/-! ### Reading what is written -/

/-- A letter with a meaning of its own has the one in the list. -/
theorem stringBody_letter {l c : Char} (h : (l, c) ∈ shortEscapes) (quote : Char)
    (rest : List Char) : stringBody quote ('\\' :: l :: rest) =
      (stringBody quote rest).map fun p => (.char c :: p.1, p.2) := by
  simp only [shortEscapes, List.mem_cons, List.not_mem_nil, or_false, Prod.mk.injEq] at h
  rcases h with ⟨rfl, rfl⟩ | ⟨rfl, rfl⟩ | ⟨rfl, rfl⟩ | ⟨rfl, rfl⟩ | ⟨rfl, rfl⟩ | ⟨rfl, rfl⟩ <;> rfl

/-- A character that means nothing else stands for itself. -/
theorem stringBody_itself {c : Char} (hletter : c ∉ shortEscapes.map Prod.fst)
    (hnumber : c ≠ 'x' ∧ c ≠ 'u') (hdigit : c.isDigit = false) (hends : isTerminator c = false)
    (quote : Char) (rest : List Char) : stringBody quote ('\\' :: c :: rest) =
      (stringBody quote rest).map fun p => (.char c :: p.1, p.2) := by
  have hsimple : simpleEscape? c = some c := by
    simp only [shortEscapes, List.map_cons, List.map_nil, List.mem_cons, List.not_mem_nil, or_false,
      not_or] at hletter
    simp [simpleEscape?, hletter, hnumber, hdigit]
  have hreturn : c ≠ '\r' := by
    rintro rfl
    exact absurd hends (by decide)
  have hzero : c ≠ '0' := by
    rintro rfl
    exact absurd hdigit (by decide)
  rw [stringBody, hends, if_neg Bool.false_ne_true, hsimple]
  · exact fun _ hc => absurd hc hreturn
  · exact fun hc => absurd hc hzero
  · exact fun _ _ _ hc => absurd hc hnumber.1
  · exact fun _ _ _ _ _ hc => absurd hc hnumber.2

/-- **An escape is read as what it stands for**, whatever stands behind it. -/
theorem Escape.stringBody_append {tail : List Char} {c : Char} (h : Escape tail c) (quote : Char)
    (rest : List Char) : stringBody quote ('\\' :: tail ++ rest) =
      (stringBody quote rest).map fun p => (.char c :: p.1, p.2) := by
  cases h with
  | letter hletter => exact stringBody_letter hletter quote rest
  | itself hletter hnumber hdigit hends =>
    exact stringBody_itself hletter hnumber hdigit hends quote rest
  | @byte a b c hnumber =>
    show stringBody quote ('\\' :: 'x' :: a :: b :: rest) = _
    rw [stringBody, hnumber, ← Point.ofUnit_toNat]
  | @unit a b d e c hnumber =>
    show stringBody quote ('\\' :: 'u' :: a :: b :: d :: e :: rest) = _
    rw [stringBody, hnumber, ← Point.ofUnit_toNat]

/-- A raw character is read as itself. -/
theorem stringBody_raw {quote c : Char} (hquote : c ≠ quote) (hbackslash : c ≠ '\\')
    (hends : c ≠ '\r' ∧ c ≠ '\n') (rest : List Char) : stringBody quote (c :: rest) =
      (stringBody quote rest).map fun p => (.char c :: p.1, p.2) := by
  rw [stringBody, if_neg hquote, if_neg (by simp [hbackslash, hends])]
  all_goals simp [hbackslash]

/-- The closing quote ends the string. -/
theorem stringBody_quote {quote : Char} (hquote : quote ∈ quotes) (rest : List Char) :
    stringBody quote (quote :: rest) = some ([], rest) := by
  simp only [quotes, List.mem_cons, List.not_mem_nil, or_false] at hquote
  rcases hquote with rfl | rfl <;> rfl

/-- A zero stays in front of what is no digit when the closing quote is put behind. -/
theorem startsWithDigit_append {quote : Char} (hquote : quote ∈ quotes) {body : List Char}
    (h : startsWithDigit body = false) (rest : List Char) :
    startsWithDigit (body ++ quote :: rest) = false := by
  cases body with
  | nil =>
    have hdigit : ∀ q ∈ quotes, q.isDigit = false := forall_mem_of_all (by decide)
    exact hdigit quote hquote
  | cons c body => exact h

/-- **The inside of a string is read as what it stands for**, up to the closing quote. -/
theorem Spelling.stringBody_append {quote : Char} (hquote : quote ∈ quotes)
    {body chars : List Char} (h : Spelling quote body chars) (rest : List Char) :
    stringBody quote (body ++ quote :: rest) = some (ofChars chars, rest) := by
  induction h with
  | nil => exact stringBody_quote hquote rest
  | raw hne hbackslash hends _ ih =>
    rw [List.cons_append, stringBody_raw hne hbackslash hends, ih]
    rfl
  | escape hescape _ ih =>
    rw [List.append_assoc, hescape.stringBody_append, ih]
    rfl
  | null hdigit _ ih =>
    rw [List.cons_append, List.cons_append, stringBody, startsWithDigit_append hquote hdigit,
      if_neg Bool.false_ne_true, ih]
    rfl

/-! ### Every text can be written -/

/-- Characters that are not special may be written as they are. -/
theorem spelling_of_raw {quote : Char} {chars : List Char}
    (h : chars.all (fun c => !([quote, '\\', '\r', '\n'].contains c)) = true) :
    Spelling quote chars chars := by
  induction chars with
  | nil => exact .nil
  | cons c chars ih =>
    rw [List.all_cons, Bool.and_eq_true, Bool.not_eq_true', ← Bool.not_eq_true,
      List.contains_iff_mem] at h
    simp only [List.mem_cons, List.not_mem_nil, or_false, not_or] at h
    obtain ⟨⟨hquote, hbackslash, hends⟩, hrest⟩ := h
    exact .raw hquote hbackslash hends (ih hrest)

/-- Quotes, backslashes and the line ends that may not be raw have escapes. -/
theorem exists_escape {c : Char} (h : c ∈ ['"', '\x27', '\\', '\r', '\n']) :
    ∃ tail, Escape tail c := by
  simp only [List.mem_cons, List.not_mem_nil, or_false] at h
  rcases h with rfl | rfl | rfl | rfl | rfl
  · exact ⟨_, .itself (by decide) (by decide) (by decide) (by decide)⟩
  · exact ⟨_, .itself (by decide) (by decide) (by decide) (by decide)⟩
  · exact ⟨_, .itself (by decide) (by decide) (by decide) (by decide)⟩
  · exact ⟨['r'], .letter (by decide)⟩
  · exact ⟨['n'], .letter (by decide)⟩

/-- **Every text can be written** between either kind of quotes. -/
theorem exists_spelling {quote : Char} (hquote : quote ∈ quotes) (chars : List Char) :
    ∃ body, Spelling quote body chars := by
  induction chars with
  | nil => exact ⟨[], .nil⟩
  | cons c chars ih =>
    obtain ⟨body, hbody⟩ := ih
    by_cases hspecial : c ∈ ['"', '\x27', '\\', '\r', '\n']
    · obtain ⟨tail, htail⟩ := exists_escape hspecial
      exact ⟨_, .escape htail hbody⟩
    · simp only [List.mem_cons, List.not_mem_nil, or_false, not_or] at hspecial
      obtain ⟨hdouble, hsingle, hbackslash, hends⟩ := hspecial
      simp only [quotes, List.mem_cons, List.not_mem_nil, or_false] at hquote
      refine ⟨c :: body, .raw ?_ hbackslash hends hbody⟩
      rintro rfl
      exact hquote.elim hdouble hsingle

end Phrasebook.Json5
