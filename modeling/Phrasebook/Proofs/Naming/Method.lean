import Phrasebook.Naming.Method
import Phrasebook.Proofs.CSharp.Word
import Phrasebook.Proofs.Naming.Fresh

/-!
# The names of methods

Keys that differ may have the same base, and an escaped name may be the base of another key, so
the names of a pass are only kept apart by what has been named before:

* `isMemberName_methodName` — the name of any key is a word that is no keyword;
* `methodNames_eq_freshNames` — the names of keys are the fresh ones for the bases of the keys;
* `methodNames_concat` — one more key adds one more name and changes none;
* `methodNames_not_mem`, `methodNames_nodup` — no name is reserved and none occurs twice.
-/

namespace Phrasebook.Naming

open Phrasebook.CSharp Phrasebook.Text

/-! ### The characters of a name -/

/-- Words that do not begin with a small ASCII letter. -/
def isMemberName : List Char → Bool
  | [] => false
  | c :: rest => isWordStart c && !c.isLower && rest.all isWordPart

theorem isWord_of_isMemberName {w : List Char} (h : isMemberName w = true) : isWord w = true := by
  cases w with
  | nil => exact h
  | cons c rest =>
    rw [isMemberName, Bool.and_eq_true, Bool.and_eq_true] at h
    rw [isWord, h.1.1, h.2]
    rfl

/-- A name of this kind can be declared without `@`. -/
theorem not_isKeyword_of_isMemberName {name : String} (h : isMemberName name.toList = true) :
    isKeyword name = false := by
  cases hname : name.toList with
  | nil =>
    rw [hname] at h
    exact absurd h Bool.false_ne_true
  | cons c rest =>
    rw [hname, isMemberName, Bool.and_eq_true, Bool.and_eq_true, Bool.not_eq_true'] at h
    exact not_isKeyword hname h.1.2

theorem isWordPart_of_letter_or_mark {c : Char} (h : (isLetter c || isCombiningMark c) = true) :
    isWordPart c = true := by
  rw [Bool.or_eq_true] at h
  rw [isWordPart, isIdentifierChar, isLetterOrDigit]
  rcases h with h | h
  · rw [h, Bool.true_or, Bool.or_true, Bool.true_or]
  · rw [h, Bool.or_true]

/-- The upper case of a letter is the beginning of a member name. -/
theorem isMemberName_upper_append {c : Char} (h : isLetter c = true) {rest : List Char}
    (hrest : rest.all isWordPart = true) : isMemberName (upper c ++ rest) = true := by
  have hcap := upper_letter h
  cases hu : upper c with
  | nil =>
    rw [hu] at hcap
    exact absurd hcap Bool.false_ne_true
  | cons d image =>
    rw [hu, isCapitalised, Bool.and_eq_true, Bool.and_eq_true] at hcap
    obtain ⟨⟨hletter, hlower⟩, himage⟩ := hcap
    have hall : image.all isWordPart = true := by
      rw [List.all_eq_true]
      intro e he
      exact isWordPart_of_letter_or_mark (List.all_eq_true.mp himage e he)
    rw [List.cons_append, isMemberName, isWordStart, hletter, hlower, List.all_append, hall, hrest,
      Bool.or_true]
    rfl

theorem isWordPart_of_mem_upper {c : Char} (h : isLetterOrDigit c = true) :
    (upper c).all isWordPart = true := by
  rw [isLetterOrDigit, Bool.or_eq_true] at h
  rcases h with h | h
  · have hnil : ([] : List Char).all isWordPart = true := rfl
    have hname := isMemberName_upper_append h hnil
    rw [List.append_nil] at hname
    exact List.all_eq_true.mpr (isWordPart_of_mem (isWord_of_isMemberName hname))
  · rw [upper_digit h]
    rw [List.all_cons, List.all_nil, isWordPart, isIdentifierChar, isLetterOrDigit, h]
    simp only [Bool.or_true, Bool.true_or, Bool.and_true]

/-- Only word characters are taken over from a key. -/
theorem methodChars_all (s : List Char) :
    ∀ capital, (methodChars capital s).all isWordPart = true := by
  induction s with
  | nil => intro capital; rfl
  | cons c rest ih =>
    intro capital
    rw [methodChars]
    split
    · rw [List.all_cons, ih true]
      rfl
    · split
      · rename_i hc
        rw [List.all_append, ih false, Bool.and_true]
        split
        · exact isWordPart_of_mem_upper hc
        · rw [List.all_cons, List.all_nil, Bool.and_true]
          apply isWordPart_of_isIdentifierChar
          rw [isIdentifierChar, hc, Bool.or_true]
      · exact ih true

/-- Where a capital is due, a name begins like a member name, unless it begins with a digit or
does not begin at all. -/
theorem methodChars_true (s : List Char) :
    methodChars true s = [] ∨ (∃ d ∈ (methodChars true s).head?, isDecimalDigit d = true) ∨
      isMemberName (methodChars true s) = true := by
  induction s with
  | nil => exact .inl rfl
  | cons c rest ih =>
    rw [methodChars]
    split
    · right
      right
      rw [isMemberName, methodChars_all]
      rfl
    · split
      · rename_i hc
        rw [isLetterOrDigit, Bool.or_eq_true] at hc
        rcases hc with hletter | hdigit
        · exact .inr (.inr (isMemberName_upper_append hletter (methodChars_all rest false)))
        · right
          left
          rw [if_pos rfl, upper_digit hdigit]
          exact ⟨c, rfl, hdigit⟩
      · exact ih

/-- **The base of any key is a member name.** -/
theorem isMemberName_methodBase (key : String) : isMemberName (methodBase key).toList = true := by
  have hall := methodChars_all key.toList true
  rw [methodBase, String.toList_ofList]
  rcases methodChars_true key.toList with hnil | ⟨d, hd, hdigit⟩ | hname
  · rw [hnil]
    decide +kernel
  · cases hs : methodChars true key.toList with
    | nil =>
      rw [hs] at hd
      exact absurd hd (by simp)
    | cons c rest =>
      rw [hs, List.head?_cons, Option.mem_def, Option.some.injEq] at hd
      rw [hs] at hall
      rw [List.isEmpty_cons, if_neg Bool.false_ne_true, guardDigitChars, if_pos (hd ▸ hdigit),
        isMemberName, hall]
      rfl
  · cases hs : methodChars true key.toList with
    | nil =>
      rw [hs] at hname
      exact absurd hname Bool.false_ne_true
    | cons c rest =>
      rw [hs] at hname hall
      rw [List.isEmpty_cons, if_neg Bool.false_ne_true, guardDigitChars]
      split
      · rw [isMemberName, hall]
        rfl
      · exact hname

theorem isMemberName_underscored {name : String} (h : isMemberName name.toList = true) (n : Nat) :
    isMemberName (underscored n name).toList = true := by
  rw [toList_underscored]
  cases n with
  | zero => exact h
  | succ n =>
    have hword := isWord_replicate_append (isWord_of_isMemberName h) n
    rw [List.replicate_succ, List.cons_append, isMemberName,
      List.all_eq_true.mpr (isWordPart_of_mem hword)]
    rfl

/-- **The name of any key is a member name**, whatever names are used. -/
theorem isMemberName_methodName (used : List String) (key : String) :
    isMemberName (methodName used key).toList = true :=
  isMemberName_underscored (isMemberName_methodBase key) _

/-! ### The names of several keys -/

/-- Without used names a key is named by its base. -/
theorem methodName_nil (key : String) : methodName [] key = methodBase key :=
  fresh_eq_self List.not_mem_nil

/-- **The names of keys are fresh ones**, in turn, for the bases of the keys. -/
theorem methodNames_eq_freshNames (keys : List String) :
    ∀ used : List String, methodNames used keys = freshNames used (keys.map methodBase) := by
  induction keys with
  | nil => intro used; rfl
  | cons key rest ih =>
    intro used
    rw [methodNames, ih, List.map_cons, freshNames]
    rfl

/-- **One more key adds one more name**, which is different from the used names and from all
names before. -/
theorem methodNames_concat (keys : List String) (key : String) (used : List String) :
    methodNames used (keys ++ [key]) =
      methodNames used keys ++ [methodName (used ++ methodNames used keys) key] := by
  rw [methodNames_eq_freshNames, methodNames_eq_freshNames, List.map_append, List.map_singleton,
    freshNames_concat]
  rfl

/-- No name is a used one. -/
theorem methodNames_not_mem {keys : List String} {name : String} {used : List String}
    (h : name ∈ methodNames used keys) : name ∉ used := by
  rw [methodNames_eq_freshNames] at h
  exact freshNames_not_mem h

/-- **The names are pairwise different.** -/
theorem methodNames_nodup (keys used : List String) : (methodNames used keys).Nodup := by
  rw [methodNames_eq_freshNames]
  exact freshNames_nodup _ used

end Phrasebook.Naming
