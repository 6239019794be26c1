import Phrasebook.Text.Basic
import Phrasebook.Text.Fields
import Phrasebook.Text.Line

/-!
# Lines of a text

C# ends a line at CR LF, CR, LF, U+0085, U+2028 and U+2029.  A text without such an end is one
line, and lines put together by `Text.unlines` come apart again at the same places, whether all
ends of C# count or LF alone:

* `Unbroken` — a text without a line end;
* `physicalLines` — the lines of a text as C# counts them;
* `physicalLines_unlines`, `splitOn_unlines` — unbroken lines come back, with an empty tail.
-/

namespace Phrasebook

open Phrasebook.Text

/-- Whether a code point ends a line of C#. -/
def Point.endsLine : Point → Bool
  | .char c => isLineEnd c
  | .half _ => false

/-- A text without a line end. -/
def Unbroken (t : Text) : Prop :=
  ∀ p ∈ t, p.endsLine = false

/-- The lines of a text as C# counts them; CR LF is one end. -/
def physicalLines : Text → List Text
  | [] => [[]]
  | .char '\r' :: .char '\n' :: rest => [] :: physicalLines rest
  | p :: rest =>
    if p.endsLine then [] :: physicalLines rest
    else
      match physicalLines rest with
      | [] => [[p]]
      | line :: lines => (p :: line) :: lines

/-! ### Texts without a line end -/

/-- What a list has none of, one element after the other. -/
theorem forall_mem_of_all {α : Type} {p : α → Bool} {l : List α} (h : l.all (!p ·) = true) :
    ∀ a ∈ l, p a = false := by
  intro a ha
  have hall := List.all_eq_true.mp h a ha
  rwa [Bool.not_eq_true'] at hall

theorem unbroken_nil : Unbroken [] := by
  intro p hp
  exact absurd hp List.not_mem_nil

@[simp] theorem unbroken_cons {p : Point} {t : Text} :
    Unbroken (p :: t) ↔ p.endsLine = false ∧ Unbroken t :=
  List.forall_mem_cons

@[simp] theorem unbroken_append {s t : Text} : Unbroken (s ++ t) ↔ Unbroken s ∧ Unbroken t :=
  List.forall_mem_append

theorem unbroken_ofChars {s : List Char} :
    Unbroken (ofChars s) ↔ ∀ c ∈ s, isLineEnd c = false :=
  List.forall_mem_map

theorem unbroken_ofString {s : String} :
    Unbroken (ofString s) ↔ ∀ c ∈ s.toList, isLineEnd c = false :=
  unbroken_ofChars

theorem ofString_append (s t : String) : ofString (s ++ t) = ofString s ++ ofString t := by
  rw [ofString, String.toList_append, ofChars, List.map_append]
  rfl

@[simp] theorem unbroken_ofString_append {s t : String} :
    Unbroken (ofString (s ++ t)) ↔ Unbroken (ofString s) ∧ Unbroken (ofString t) := by
  rw [ofString_append, unbroken_append]

/-- For a string that is written out, its characters decide. -/
theorem unbroken_ofList {s : List Char} (h : s.all (!isLineEnd ·) = true) :
    Unbroken (ofString (String.ofList s)) := by
  rw [unbroken_ofString, String.toList_ofList]
  exact forall_mem_of_all h

/-- What holds of all elements of the lists and of what is put between them. -/
theorem forall_mem_intercalate {α : Type} {holds : α → Prop} {between : List α}
    (hb : ∀ a ∈ between, holds a) {lists : List (List α)} (h : ∀ l ∈ lists, ∀ a ∈ l, holds a) :
    ∀ a ∈ between.intercalate lists, holds a := by
  induction lists with
  | nil => exact List.forall_mem_nil _
  | cons l rest ih =>
    rw [List.forall_mem_cons] at h
    cases rest with
    | nil =>
      rw [List.intercalate_singleton]
      exact h.1
    | cons m rest =>
      rw [List.intercalate_cons_cons, List.forall_mem_append, List.forall_mem_append]
      exact ⟨⟨h.1, hb⟩, ih h.2⟩

/-- What holds of all code points of the texts and of what is put between them. -/
theorem forall_mem_joinTexts {holds : Point → Prop} {between : Text} (hb : ∀ p ∈ between, holds p)
    {texts : List Text} (h : ∀ t ∈ texts, ∀ p ∈ t, holds p) :
    ∀ p ∈ joinTexts between texts, holds p :=
  forall_mem_intercalate hb h

theorem unbroken_joinTexts {between : Text} (hb : Unbroken between) {texts : List Text}
    (h : ∀ t ∈ texts, Unbroken t) : Unbroken (joinTexts between texts) :=
  forall_mem_joinTexts hb h

theorem join_cons (between s : String) (rest : List String) :
    ∃ tail, join between (s :: rest) = s ++ tail := by
  cases rest with
  | nil => exact ⟨"", (String.append_empty).symm⟩
  | cons t rest => exact ⟨between ++ join between (t :: rest), String.append_assoc⟩

theorem plain_append (strings others : List String) :
    plain (strings ++ others) = plain strings ++ plain others :=
  List.map_append

/-- Strings in a row are texts in a row. -/
theorem ofString_join (between : String) (strings : List String) :
    ofString (join between strings) = joinTexts between (plain strings) := by
  induction strings with
  | nil => rfl
  | cons s rest ih =>
    cases rest with
    | nil => rw [join, plain, List.map_singleton, joinTexts, List.intercalate_singleton]
    | cons t rest =>
      rw [join, ofString_append, ofString_append, ih]
      · exact (List.intercalate_cons_cons).symm
      · intro h
        exact List.cons_ne_nil t rest h

theorem unbroken_join {between : String} (hb : Unbroken between) {strings : List String}
    (h : ∀ s ∈ strings, Unbroken (ofString s)) : Unbroken (ofString (join between strings)) := by
  rw [ofString_join]
  exact unbroken_joinTexts hb (List.forall_mem_map.mpr h)

/-! ### Beginnings of lines -/

theorem filterMap_ofChars (s : List Char) : (ofChars s).filterMap Point.char? = s := by
  rw [ofChars, List.filterMap_map]
  exact List.filterMap_some

theorem prefix_of_ofChars {s t : List Char} (h : ofChars s <+: ofChars t) : s <+: t := by
  have hchars := h.filterMap Point.char?
  rwa [filterMap_ofChars, filterMap_ofChars] at hchars

/-- A beginning that a separator does not occur in ends before the first separator. -/
theorem prefix_of_prefix_append_cons {α : Type} {w s rest : List α} {c : α} (hc : c ∉ w)
    (h : w <+: s ++ c :: rest) : w <+: s := by
  rcases List.prefix_or_prefix_of_prefix h (List.prefix_append s (c :: rest)) with hw | ⟨t, rfl⟩
  · exact hw
  · rw [List.prefix_append_right_inj] at h
    cases t with
    | nil =>
      refine ⟨[], ?_⟩
      rw [List.append_nil, List.append_nil]
    | cons d t =>
      rw [List.cons_prefix_cons] at h
      rw [h.1] at hc
      exact absurd (List.mem_append_right s List.mem_cons_self) hc

/-- Neither text is the beginning of the other. -/
def clash (s t : List Char) : Bool :=
  !s.isPrefixOf t && !t.isPrefixOf s

theorem prefix_of_isPrefixOf {s t : List Char} (h : s.isPrefixOf t = true) (rest : Text) :
    ofChars s <+: ofString (String.ofList t) ++ rest := by
  rw [List.isPrefixOf_iff_prefix] at h
  rw [ofString, String.toList_ofList]
  exact (h.map Point.char).trans (List.prefix_append _ _)

/-- A text that begins in one way does not begin in a way that clashes with it. -/
theorem not_prefix_of_clash {s t : List Char} (h : clash s t = true) (rest : Text) :
    ¬ ofChars s <+: ofString (String.ofList t) ++ rest := by
  rw [clash, Bool.and_eq_true, Bool.not_eq_true', Bool.not_eq_true'] at h
  rw [ofString, String.toList_ofList]
  intro hprefix
  rcases List.prefix_or_prefix_of_prefix hprefix (List.prefix_append (ofChars t) rest) with hst | hts
  · have hs := List.isPrefixOf_iff_prefix.mpr (prefix_of_ofChars hst)
    rw [h.1] at hs
    exact absurd hs Bool.false_ne_true
  · have ht := List.isPrefixOf_iff_prefix.mpr (prefix_of_ofChars hts)
    rw [h.2] at ht
    exact absurd ht Bool.false_ne_true

/-! ### Lines come back -/

theorem physicalLines_cons {p : Point} (h : p.endsLine = false) (t : Text) :
    physicalLines (p :: t) =
      match physicalLines t with
      | [] => [[p]]
      | line :: lines => (p :: line) :: lines := by
  rw [physicalLines.eq_def]
  split
  · rename_i heq
    exact absurd heq (by simp)
  · rename_i heq
    rw [List.cons.injEq] at heq
    rw [heq.1] at h
    exact absurd h (by decide)
  · rename_i heq
    rw [List.cons.injEq] at heq
    rw [← heq.1, ← heq.2, if_neg (by rw [h]; exact Bool.false_ne_true)]

theorem physicalLines_newline (t : Text) :
    physicalLines (.char '\n' :: t) = [] :: physicalLines t := rfl

/-- An unbroken text is one line. -/
theorem physicalLines_of_unbroken {t : Text} (h : Unbroken t) : physicalLines t = [t] := by
  induction t with
  | nil => rfl
  | cons p rest ih =>
    rw [unbroken_cons] at h
    rw [physicalLines_cons h.1, ih h.2]

/-- What stands before the first line end is the first line. -/
theorem physicalLines_append_newline {line : Text} (h : Unbroken line) (t : Text) :
    physicalLines (line ++ .char '\n' :: t) = line :: physicalLines t := by
  induction line with
  | nil => rw [List.nil_append, physicalLines_newline]
  | cons p rest ih =>
    rw [unbroken_cons] at h
    rw [List.cons_append, physicalLines_cons h.1, ih h.2]

/-- **Unbroken lines come back, as C# counts lines.** -/
theorem physicalLines_unlines {lines : List Text} (h : ∀ line ∈ lines, Unbroken line) :
    physicalLines (unlines lines) = lines ++ [[]] := by
  induction lines with
  | nil => rfl
  | cons line rest ih =>
    rw [List.forall_mem_cons] at h
    show physicalLines ((line ++ [.char '\n']) ++ unlines rest) = _
    rw [List.append_assoc, List.singleton_append, physicalLines_append_newline h.1, ih h.2]
    rfl

theorem newline_not_mem {line : Text} (h : Unbroken line) : Point.char '\n' ∉ line := by
  intro hmem
  have hends := h _ hmem
  exact absurd hends (by decide)

/-- Lines without LF come back, as LF alone counts lines. -/
theorem splitOn_unlines_of_not_mem {lines : List Text} (h : ∀ line ∈ lines, Point.char '\n' ∉ line) :
    (unlines lines).splitOn (.char '\n') = lines ++ [[]] := by
  induction lines with
  | nil => rfl
  | cons line rest ih =>
    rw [List.forall_mem_cons] at h
    show List.splitOn (.char '\n') ((line ++ [.char '\n']) ++ unlines rest) = _
    rw [List.append_assoc, List.singleton_append, List.splitOn_append_cons_self, ih h.2,
      List.splitOn_eq_singleton h.1]
    rfl

/-- **Unbroken lines come back, as LF alone counts lines.** -/
theorem splitOn_unlines {lines : List Text} (h : ∀ line ∈ lines, Unbroken line) :
    (unlines lines).splitOn (.char '\n') = lines ++ [[]] :=
  splitOn_unlines_of_not_mem fun line hline => newline_not_mem (h line hline)

end Phrasebook
