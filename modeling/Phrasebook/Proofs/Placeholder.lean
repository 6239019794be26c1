import Phrasebook.Placeholder
import Phrasebook.Proofs.Naming.Parameter
import Phrasebook.Proofs.Text.Lines

/-!
# The placeholders of a text

Whatever a text looks like, its placeholders have names of word characters, dots and hyphens, and
their parameters are words:

* `occurrences_mem` — the names that are found are not empty and made of such characters;
* `placeholdersOf_keys`, `placeholdersOf_parameters` — names and parameters go in parallel;
* `Placeholder.Sound` and `placeholdersOf_sound` — what every placeholder of a text satisfies.
-/

namespace Phrasebook

open Phrasebook.CSharp Phrasebook.Naming Phrasebook.Text

/-! ### Names -/

theorem nameAt?_name {s name rest : List Char} (h : nameAt? s = some (name, rest)) :
    name ≠ [] ∧ ∀ c ∈ name, isPlaceholderChar c = true := by
  simp only [nameAt?, Option.bind_eq_bind, Option.bind_eq_some_iff, Option.pure_def] at h
  obtain ⟨inner, -, h⟩ := h
  split at h
  · exact absurd h (by simp)
  · rename_i hempty
    simp only [Option.bind_eq_some_iff, Option.some.injEq, Prod.mk.injEq] at h
    obtain ⟨-, -, rfl, -⟩ := h
    refine ⟨?_, List.all_eq_true.mp List.all_takeWhile⟩
    intro hnil
    rw [hnil] at hempty
    exact hempty rfl

/-- **The names that are found** are not empty and made of word characters, dots and hyphens. -/
theorem occurrences_mem (s : List Char) :
    ∀ name ∈ occurrences s, name ≠ [] ∧ ∀ c ∈ name, isPlaceholderChar c = true := by
  fun_induction occurrences s with
  | case1 => intro name hn; exact absurd hn List.not_mem_nil
  | case2 c rest name after hname ih =>
    intro other ho
    rcases List.mem_cons.mp ho with rfl | ho
    · exact nameAt?_name hname
    · exact ih other ho
  | case3 c rest _ ih => exact ih

theorem distinctNames_subset (names : List String) :
    ∀ seen : List String, ∀ name ∈ distinctNames seen names, name ∈ names := by
  induction names with
  | nil => intro seen name hn; exact hn
  | cons first rest ih =>
    intro seen name hn
    rw [distinctNames] at hn
    split at hn
    · exact List.mem_cons_of_mem first (ih seen name hn)
    · rcases List.mem_cons.mp hn with rfl | hn
      · exact List.mem_cons_self
      · exact List.mem_cons_of_mem first (ih _ name hn)

theorem placeholderNames_mem {text name : String} (h : name ∈ placeholderNames text) :
    name.toList ≠ [] ∧ ∀ c ∈ name.toList, isPlaceholderChar c = true := by
  obtain ⟨chars, hchars, rfl⟩ := List.mem_map.mp (distinctNames_subset _ [] name h)
  rw [String.toList_ofList]
  exact occurrences_mem text.toList chars hchars

/-! ### Names with their parameters -/

theorem placeholdersOf_eq_map (reserved : List String) (text : String) :
    placeholdersOf reserved text =
      ((placeholderNames text).zip (parameterNames reserved (placeholderNames text))).map
        fun q => ⟨q.1, q.2⟩ :=
  List.map_uncurry_zip_eq_zipWith.symm

/-- **The names of the placeholders**, in the order of the text. -/
theorem placeholdersOf_keys (reserved : List String) (text : String) :
    (placeholdersOf reserved text).map (·.key) = placeholderNames text := by
  rw [placeholdersOf_eq_map, List.map_map]
  exact List.map_fst_zip (Nat.le_of_eq (length_parameterNames _ _).symm)

/-- **The parameters of the placeholders**, in the same order. -/
theorem placeholdersOf_parameters (reserved : List String) (text : String) :
    (placeholdersOf reserved text).map (·.parameter) =
      parameterNames reserved (placeholderNames text) := by
  rw [placeholdersOf_eq_map, List.map_map]
  exact List.map_snd_zip (Nat.le_of_eq (length_parameterNames _ _))

/-- What every placeholder of a text satisfies: its name is not empty and made of word characters,
dots and hyphens, and its parameter is a word, written with `@` when it is a keyword. -/
structure Placeholder.Sound (p : Placeholder) : Prop where
  key_ne_nil : p.key.toList ≠ []
  key_chars : ∀ c ∈ p.key.toList, isPlaceholderChar c = true
  parameter : ∃ name : String, isWord name.toList = true ∧ p.parameter = verbatim name

theorem placeholdersOf_sound (reserved : List String) (text : String) :
    ∀ p ∈ placeholdersOf reserved text, p.Sound := by
  intro p hp
  have hkey : p.key ∈ placeholderNames text := by
    rw [← placeholdersOf_keys reserved text]
    exact List.mem_map_of_mem hp
  have hparameter : p.parameter ∈ parameterNames reserved (placeholderNames text) := by
    rw [← placeholdersOf_parameters reserved text]
    exact List.mem_map_of_mem hp
  obtain ⟨hne, hchars⟩ := placeholderNames_mem hkey
  exact ⟨hne, hchars,
    parameterNames_mem (fun key hk => (placeholderNames_mem hk).1) p.parameter hparameter⟩

/-! ### Placeholders stay on their line -/

theorem isLineEnd_of_isPlaceholderChar {c : Char} (h : isPlaceholderChar c = true) :
    isLineEnd c = false := by
  have hends : ∀ d ∈ ['\r', '\n', '\u0085', '\u2028', '\u2029'], isPlaceholderChar d = false :=
    forall_mem_of_all (by decide +kernel)
  rw [← Bool.not_eq_true]
  intro hl
  rw [hends c (mem_of_isLineEnd hl)] at h
  exact absurd h Bool.false_ne_true

/-- A word is unbroken. -/
theorem unbroken_of_isWord {name : String} (h : isWord name.toList = true) :
    Unbroken (ofString name) := by
  rw [unbroken_ofString]
  intro c hc
  exact isLineEnd_of_isWordPart (isWordPart_of_mem h c hc)

theorem unbroken_verbatim {name : String} (h : isWord name.toList = true) :
    Unbroken (ofString (verbatim name)) := by
  rw [verbatim]
  split
  · rw [unbroken_ofString_append]
    exact ⟨unbroken_ofList (by decide), unbroken_of_isWord h⟩
  · exact unbroken_of_isWord h

theorem Placeholder.Sound.unbroken_key {p : Placeholder} (h : p.Sound) :
    Unbroken (ofString p.key) := by
  rw [unbroken_ofString]
  intro c hc
  exact isLineEnd_of_isPlaceholderChar (h.key_chars c hc)

theorem Placeholder.Sound.unbroken_parameter {p : Placeholder} (h : p.Sound) :
    Unbroken (ofString p.parameter) := by
  obtain ⟨name, hname, hp⟩ := h.parameter
  rw [hp]
  exact unbroken_verbatim hname

end Phrasebook
