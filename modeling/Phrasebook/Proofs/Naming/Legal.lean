import Phrasebook.Proofs.Naming.Method
import Phrasebook.Proofs.Text.Mark

/-!
# Methods have legal names

A name takes letters and digits from its key, and a letter at the beginning of a word is written in
upper case, which may be several characters long.  So every character of a name can be traced back:

* `mem_methodChars`, `mem_methodName` — where the characters of a name come from;
* `exists_letter_of_isCombiningMark` — a combining mark comes from the upper case of a letter;
* `methodName_legal` — the name of any key is an identifier that needs no `@`.
-/

namespace Phrasebook.Naming

open Phrasebook.CSharp Phrasebook.Text

/-! ### Where the characters of a name come from -/

/-- Each character that is taken over from a key is an underscore for a dot, a letter or digit of
the key, or stands in the upper case of one. -/
theorem mem_methodChars {s : List Char} {d : Char} :
    ∀ {capital : Bool}, d ∈ methodChars capital s →
      d = '_' ∨ isLetterOrDigit d = true ∨ ∃ l ∈ s, isLetterOrDigit l = true ∧ d ∈ upper l := by
  induction s with
  | nil => intro capital hd; exact absurd hd List.not_mem_nil
  | cons c rest ih =>
    -- what comes from the rest of the key comes from the key
    have hrest : ∀ {capital : Bool}, d ∈ methodChars capital rest →
        d = '_' ∨ isLetterOrDigit d = true ∨
          ∃ l ∈ c :: rest, isLetterOrDigit l = true ∧ d ∈ upper l := by
      intro capital hd
      obtain hd | hd | ⟨l, hl, hupper⟩ := ih hd
      · exact .inl hd
      · exact .inr (.inl hd)
      · exact .inr (.inr ⟨l, List.mem_cons_of_mem c hl, hupper⟩)
    intro capital hd
    rw [methodChars] at hd
    split at hd
    · rcases List.mem_cons.mp hd with rfl | hd
      · exact .inl rfl
      · exact hrest hd
    · split at hd
      · rename_i hc
        rcases List.mem_append.mp hd with hd | hd
        · split at hd
          · exact .inr (.inr ⟨c, List.mem_cons_self, hc, hd⟩)
          · rw [List.mem_singleton.mp hd]
            exact .inr (.inl hc)
        · exact hrest hd
      · exact hrest hd

/-- The guard in front of a digit is an underscore. -/
theorem mem_guardDigitChars {s : List Char} {d : Char} (h : d ∈ guardDigitChars s) :
    d = '_' ∨ d ∈ s := by
  cases s with
  | nil => exact .inr h
  | cons c rest =>
    rw [guardDigitChars] at h
    split at h
    · exact List.mem_cons.mp h
    · exact .inr h

/-- What is in a name and not taken over from the key is an underscore. -/
theorem mem_methodName {used : List String} {key : String} {d : Char}
    (h : d ∈ (methodName used key).toList) : d = '_' ∨ d ∈ methodChars true key.toList := by
  rw [methodName, fresh, toList_underscored, List.mem_append] at h
  rcases h with h | h
  · exact .inl (List.eq_of_mem_replicate h)
  · rw [methodBase, String.toList_ofList] at h
    rcases mem_guardDigitChars h with h | h
    · exact .inl h
    · split at h
      · exact .inl (List.mem_singleton.mp h)
      · exact .inr h

/-- **A combining mark in a name** stands in the upper case of a letter of the key that is not
the mark itself. -/
theorem exists_letter_of_isCombiningMark {used : List String} {key : String} {d : Char}
    (h : d ∈ (methodName used key).toList) (hmark : isCombiningMark d = true) :
    ∃ l ∈ key.toList, isLetter l = true ∧ d ∈ upper l ∧ d ≠ l := by
  obtain ⟨hletter, hdigit⟩ := not_isLetterOrDigit_of_isCombiningMark hmark
  have hunderscore : d ≠ '_' := by
    rintro rfl
    exact absurd hmark (by decide)
  obtain hd | hd | ⟨l, hl, hlegal, hupper⟩ :=
    mem_methodChars ((mem_methodName h).resolve_left hunderscore)
  · exact absurd hd hunderscore
  · rw [isLetterOrDigit, hletter, hdigit] at hd
    exact absurd hd Bool.false_ne_true
  · rw [isLetterOrDigit, Bool.or_eq_true] at hlegal
    rcases hlegal with hl' | hl'
    · refine ⟨l, hl, hl', hupper, ?_⟩
      rintro rfl
      exact absurd (hletter.symm.trans hl') Bool.false_ne_true
    · -- a digit is its own upper case
      rw [upper_digit hl', List.mem_singleton] at hupper
      rw [hupper, hl'] at hdigit
      exact absurd hdigit.symm Bool.false_ne_true

/-- A letter that is legible in a text is a character of the text: a half is shown as a character
that is no letter. -/
theorem mem_of_mem_legible {t : Text} {l : Char} (h : l ∈ t.legible.toList)
    (hl : isLetter l = true) : .char l ∈ t := by
  rw [legible, String.toList_ofList] at h
  obtain ⟨p, hp, rfl⟩ := List.mem_map.mp h
  cases p with
  | char c => exact hp
  | half q =>
    have hno : isLetter '\ufffd' = false := by decide +kernel
    exact absurd (hno.symm.trans hl) Bool.false_ne_true

/-! ### Legal names -/

/-- **The name of any key is an identifier**, whatever names are used.

* It is not empty and begins with an underscore or a letter.
* All its characters are underscores, letters, decimal digits and combining marks, and a combining
  mark stands in the upper case of a letter of the key, which is not the mark itself.
* It is no keyword, so it is declared without `@`.
* The loop that puts underscores in front of the base of the key ends with it. -/
theorem methodName_legal (used : List String) (key : Text) :
    (∃ first rest, (methodName used key.legible).toList = first :: rest ∧
      (first = '_' ∨ isLetter first = true)) ∧
    (∀ c ∈ (methodName used key.legible).toList,
      c = '_' ∨ isLetter c = true ∨ isDecimalDigit c = true ∨ isCombiningMark c = true) ∧
    (∀ c ∈ (methodName used key.legible).toList, isCombiningMark c = true →
      ∃ l, .char l ∈ key ∧ isLetter l = true ∧ c ∈ upper l ∧ c ≠ l) ∧
    isKeyword (methodName used key.legible) = false ∧
    verbatim (methodName used key.legible) = methodName used key.legible ∧
    Escaped used (methodBase key.legible) (methodName used key.legible) := by
  have hname := isMemberName_methodName used key.legible
  have hkeyword := not_isKeyword_of_isMemberName hname
  refine ⟨?_, fun c hc => ?_, fun c hc hmark => ?_, hkeyword, ?_, escaped_iff.mpr rfl⟩
  · cases hchars : (methodName used key.legible).toList with
    | nil =>
      rw [hchars] at hname
      exact absurd hname Bool.false_ne_true
    | cons first rest =>
      rw [hchars, isMemberName, Bool.and_eq_true, Bool.and_eq_true, isWordStart, Bool.or_eq_true,
        beq_iff_eq] at hname
      exact ⟨first, rest, rfl, hname.1.1⟩
  · have hpart := isWordPart_of_mem (isWord_of_isMemberName hname) c hc
    rw [isWordPart, isIdentifierChar, isLetterOrDigit, Bool.or_eq_true, Bool.or_eq_true,
      Bool.or_eq_true, beq_iff_eq] at hpart
    obtain (hunderscore | hletter | hdigit) | hmark := hpart
    · exact .inl hunderscore
    · exact .inr (.inl hletter)
    · exact .inr (.inr (.inl hdigit))
    · exact .inr (.inr (.inr hmark))
  · obtain ⟨l, hl, hletter, hupper, hne⟩ := exists_letter_of_isCombiningMark hc hmark
    exact ⟨l, mem_of_mem_legible hl hletter, hletter, hupper, hne⟩
  · rw [verbatim, hkeyword, if_neg Bool.false_ne_true]

/-- A key whose first letter has a mark in its upper case: a small `j` with a caron has the capital
without it, and the caron as a mark of its own. -/
theorem methodName_legal_caron :
    methodName ["J\u030cs"] (Text.legible "\u01f0s") = "_J\u030cs" ∧
      '\u030c' ∈ (methodName ["J\u030cs"] (Text.legible "\u01f0s")).toList ∧
      isCombiningMark '\u030c' = true ∧
      ∃ l, Point.char l ∈ ("\u01f0s" : Text) ∧ isLetter l = true ∧ '\u030c' ∈ upper l ∧
        '\u030c' ≠ l := by
  obtain ⟨hname, hmem, hmark⟩ :
      methodName ["J\u030cs"] (Text.legible "\u01f0s") = "_J\u030cs" ∧
        '\u030c' ∈ (methodName ["J\u030cs"] (Text.legible "\u01f0s")).toList ∧
        isCombiningMark '\u030c' = true := by
    decide +kernel
  obtain ⟨-, -, hmarks, -⟩ := methodName_legal ["J\u030cs"] "\u01f0s"
  exact ⟨hname, hmem, hmark, hmarks '\u030c' hmem hmark⟩

end Phrasebook.Naming
