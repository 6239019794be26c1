import Phrasebook.CSharp.Identifier
import Phrasebook.Naming.Fresh
import Phrasebook.Proofs.Text.Lines
import Phrasebook.Proofs.Text.Upper
import Phrasebook.Text.Line

/-!
# Words of C#

A word is what C# reads as one identifier or keyword.  It may hold combining marks, which no
locale file puts into a name directly but which upper-casing can bring in:

* `isWordStart`, `isWordPart`, `isWord` — the characters of a word and the words;
* `isWordPart_delimiter`, `isLineEnd_of_isWordPart` — what no word contains;
* `isBareName_iff`, `isBareName_guardDigitChars`, `isBareName_underscored` — bare names;
* `isWord_of_isBareName`, `isWord_replicate_append` — names that are words;
* `unescaped_verbatim` — a word is found again in the way it is written;
* `not_isKeyword` — keywords begin with a small letter, so a name that does not is none.
-/

namespace Phrasebook.CSharp

open Phrasebook.Naming Phrasebook.Text

/-- A character that a word may begin with. -/
def isWordStart (c : Char) : Bool :=
  c == '_' || isLetter c

/-- A character that may stand in a word. -/
def isWordPart (c : Char) : Bool :=
  isIdentifierChar c || isCombiningMark c

/-- Characters that C# reads as one identifier or keyword. -/
def isWord : List Char → Bool
  | [] => false
  | c :: rest => isWordStart c && rest.all isWordPart

theorem isWordPart_of_isIdentifierChar {c : Char} (h : isIdentifierChar c = true) :
    isWordPart c = true := by
  rw [isWordPart, h, Bool.true_or]

theorem isWordPart_of_isWordStart {c : Char} (h : isWordStart c = true) : isWordPart c = true := by
  rw [isWordStart, Bool.or_eq_true] at h
  apply isWordPart_of_isIdentifierChar
  rw [isIdentifierChar, isLetterOrDigit]
  rcases h with h | h
  · rw [h, Bool.true_or]
  · rw [h, Bool.true_or, Bool.or_true]

/-- Every character of a word is a word character. -/
theorem isWordPart_of_mem {w : List Char} (h : isWord w = true) : ∀ c ∈ w, isWordPart c = true := by
  cases w with
  | nil => exact absurd h Bool.false_ne_true
  | cons d rest =>
    rw [isWord, Bool.and_eq_true] at h
    intro c hc
    rcases List.mem_cons.mp hc with rfl | hc
    · exact isWordPart_of_isWordStart h.1
    · exact List.all_eq_true.mp h.2 c hc

/-! ### What no word contains -/

/-- The characters that stand between words in the generated source. -/
def delimiters : List Char :=
  [' ', '"', '@', '\\', '(', ')', '\x7b', '\x7d', '[', ']', '<', '>', '=', ',', ';', '?', '.',
   '/', '&']

theorem isWordPart_delimiter : ∀ c ∈ delimiters, isWordPart c = false :=
  forall_mem_of_all (by decide +kernel)

/-- The characters that end a line. -/
theorem mem_of_isLineEnd {c : Char} (h : isLineEnd c = true) :
    c ∈ ['\r', '\n', '\u0085', '\u2028', '\u2029'] := by
  simp only [isLineEnd, Bool.or_eq_true, beq_iff_eq] at h
  simp only [List.mem_cons, List.not_mem_nil, or_false]
  rcases h with (((h | h) | h) | h) | h
  · exact .inl h
  · exact .inr (.inl h)
  · exact .inr (.inr (.inl h))
  · exact .inr (.inr (.inr (.inl h)))
  · exact .inr (.inr (.inr (.inr h)))

/-- A word stays on its line. -/
theorem isLineEnd_of_isWordPart {c : Char} (h : isWordPart c = true) : isLineEnd c = false := by
  have hends : ∀ d ∈ ['\r', '\n', '\u0085', '\u2028', '\u2029'], isWordPart d = false :=
    forall_mem_of_all (by decide +kernel)
  rw [← Bool.not_eq_true]
  intro hl
  rw [hends c (mem_of_isLineEnd hl)] at h
  exact absurd h Bool.false_ne_true

/-! ### Names that are words -/

theorem isWordStart_of_isIdentifierChar {c : Char} (h : isIdentifierChar c = true)
    (hd : isDecimalDigit c = false) : isWordStart c = true := by
  rw [isIdentifierChar, isLetterOrDigit, hd, Bool.or_false] at h
  exact h

/-- A bare name is a word. -/
theorem isWord_of_isBareName {name : String} (h : isBareName name = true) :
    isWord name.toList = true := by
  unfold isBareName at h
  split at h
  · exact absurd h Bool.false_ne_true
  · rename_i c rest hname
    rw [List.all_cons, Bool.and_eq_true, Bool.and_eq_true, Bool.not_eq_true'] at h
    obtain ⟨hdigit, hc, hrest⟩ := h
    rw [hname, isWord, isWordStart_of_isIdentifierChar hc hdigit, Bool.true_and, List.all_eq_true]
    intro d hd
    exact isWordPart_of_isIdentifierChar (List.all_eq_true.mp hrest d hd)

theorem isIdentifierChar_of_start {c : Char} (h : c = '_' ∨ isLetter c = true) :
    isIdentifierChar c = true := by
  rw [isIdentifierChar, isLetterOrDigit, Bool.or_eq_true, Bool.or_eq_true, beq_iff_eq]
  exact h.imp_right Or.inl

/-- A bare name begins with an underscore or a letter, which is no digit, and goes on with
identifier characters. -/
theorem isBareName_iff {name : String} :
    isBareName name = true ↔ ∃ first rest, name.toList = first :: rest ∧
      (first = '_' ∨ isLetter first = true) ∧ isDecimalDigit first = false ∧
      ∀ c ∈ rest, isIdentifierChar c = true := by
  unfold isBareName
  cases name.toList with
  | nil => exact iff_of_false Bool.false_ne_true fun ⟨_, _, h, _⟩ => absurd h (by simp)
  | cons c rest =>
    simp only [List.cons.injEq, List.all_cons, Bool.and_eq_true, Bool.not_eq_true',
      List.all_eq_true]
    constructor
    · rintro ⟨hdigit, hc, hrest⟩
      have hstart := isWordStart_of_isIdentifierChar hc hdigit
      rw [isWordStart, Bool.or_eq_true, beq_iff_eq] at hstart
      exact ⟨c, rest, ⟨rfl, rfl⟩, hstart, hdigit, hrest⟩
    · rintro ⟨_, _, ⟨rfl, rfl⟩, hstart, hdigit, hrest⟩
      exact ⟨hdigit, isIdentifierChar_of_start hstart, hrest⟩

/-- An underscore in front of identifier characters makes a bare name. -/
theorem isBareName_cons_underscore {s : List Char} (h : ∀ c ∈ s, isIdentifierChar c = true) :
    isBareName (String.ofList ('_' :: s)) = true := by
  rw [isBareName_iff, String.toList_ofList]
  exact ⟨'_', s, rfl, .inl rfl, by decide +kernel, h⟩

/-- Identifier characters are a bare name once a digit in front is guarded. -/
theorem isBareName_guardDigitChars {s : List Char} (hne : s ≠ [])
    (h : ∀ c ∈ s, isIdentifierChar c = true) :
    isBareName (String.ofList (guardDigitChars s)) = true := by
  cases s with
  | nil => exact absurd rfl hne
  | cons c rest =>
    rw [guardDigitChars]
    split
    · exact isBareName_cons_underscore h
    · rename_i hdigit
      rw [Bool.not_eq_true] at hdigit
      rw [isBareName, String.toList_ofList]
      show (!isDecimalDigit c && (c :: rest).all isIdentifierChar) = true
      rw [hdigit, List.all_eq_true.mpr h]
      rfl

/-- Underscores in front of a bare name make a bare name. -/
theorem isBareName_underscored {name : String} (h : isBareName name = true) (n : Nat) :
    isBareName (underscored n name) = true := by
  rw [underscored]
  cases n with
  | zero =>
    rw [List.replicate_zero, List.nil_append, String.ofList_toList]
    exact h
  | succ n =>
    obtain ⟨first, rest, hname, hfirst, -, hrest⟩ := isBareName_iff.mp h
    rw [List.replicate_succ, List.cons_append, hname]
    apply isBareName_cons_underscore
    rw [List.forall_mem_append, List.forall_mem_cons]
    refine ⟨fun c hc => ?_, isIdentifierChar_of_start hfirst, hrest⟩
    rw [List.eq_of_mem_replicate hc]
    rfl

/-- Underscores in front of a word make a word. -/
theorem isWord_replicate_append {w : List Char} (h : isWord w = true) (n : Nat) :
    isWord (List.replicate n '_' ++ w) = true := by
  induction n with
  | zero => rw [List.replicate_zero, List.nil_append, h]
  | succ n ih =>
    have hall : (List.replicate n '_' ++ w).all isWordPart = true :=
      List.all_eq_true.mpr (isWordPart_of_mem ih)
    rw [List.replicate_succ, List.cons_append, isWord, hall]
    rfl

/-- The name in a written word is the word without its `@`. -/
theorem unescaped_verbatim {name : String} (h : isWord name.toList = true) :
    unescaped (verbatim name) = name := by
  have hat : ∀ rest, name.toList ≠ '@' :: rest := by
    intro rest hname
    have hpart := isWordPart_of_mem h '@' (by rw [hname]; exact List.mem_cons_self)
    rw [isWordPart_delimiter '@' (by decide)] at hpart
    exact absurd hpart Bool.false_ne_true
  rw [verbatim]
  split
  · have hwritten : ("@" ++ name).toList = '@' :: name.toList := String.toList_append
    rw [unescaped, hwritten]
    exact String.ofList_toList
  · rw [unescaped]
    split
    · rename_i rest hname
      exact absurd hname (hat rest)
    · rfl

/-! ### Keywords -/

/-- Every keyword begins with a small ASCII letter. -/
theorem keywords_lower : keywords.all (·.toList.head?.any (·.isLower)) = true := by
  decide

/-- **A name that does not begin with a small ASCII letter is no keyword.** -/
theorem not_isKeyword {name : String} {c : Char} {rest : List Char} (hname : name.toList = c :: rest)
    (hc : c.isLower = false) : isKeyword name = false := by
  rw [← Bool.not_eq_true, isKeyword, List.contains_iff_mem]
  intro hmem
  have hlower := List.all_eq_true.mp keywords_lower name hmem
  rw [hname, List.head?_cons, Option.any_some, hc] at hlower
  exact absurd hlower Bool.false_ne_true

end Phrasebook.CSharp
