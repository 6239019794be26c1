import Mathlib.Data.List.TakeWhile
import Phrasebook.Text.Blank
import Phrasebook.Text.Fields

/-!
# Fields and words of a text

Fields are what splitting a list gives, so putting a text together and taking it apart undo each
other; and a text of which trimming leaves something has a word in it.

* `fieldsOf_eq_splitOn` — fields in terms of the library;
* `fieldsOf_append_cons`, `fieldsOf_map` — fields of texts put together, and of changed characters;
* `join_fields`, `fields_join` — the two ways to undo one with the other;
* `words_trim_ne_nil` — a text that is not blank has a word;
* `Trimmed`, `trim_of_trimmed`, `trimmed_join` — texts that trimming leaves as they are;
* `words_join` — words come back from the text that single spaces make of them.
-/

namespace Phrasebook.Text

/-! ### Fields -/

theorem fieldsOf_eq_splitOn (sep : Char) (s : List Char) : fieldsOf sep s = s.splitOn sep := by
  induction s with
  | nil => rfl
  | cons c rest ih =>
    rw [fieldsOf, ih, List.splitOn_cons_eq_if_modifyHead]
    by_cases h : c = sep
    · rw [if_pos h, if_pos (beq_iff_eq.mpr h)]
    · rw [if_neg h, if_neg fun heq => h (beq_iff_eq.mp heq)]
      cases hrest : rest.splitOn sep with
      | nil => exact absurd hrest (List.splitOn_ne_nil sep rest)
      | cons first others => rfl

/-- What a separator keeps apart has its own fields on either side. -/
theorem fieldsOf_append_cons (sep : Char) (s t : List Char) :
    fieldsOf sep (s ++ sep :: t) = fieldsOf sep s ++ fieldsOf sep t := by
  simp only [fieldsOf_eq_splitOn, List.splitOn_eq_splitOnP]
  exact List.splitOnP_append_cons s t (beq_self_eq_true sep)

/-- Fields do not change when the characters do, if only the separator becomes the separator. -/
theorem fieldsOf_map {sep : Char} {f : Char → Char} (h : ∀ c, f c = sep ↔ c = sep)
    (s : List Char) : fieldsOf sep (s.map f) = (fieldsOf sep s).map (List.map f) := by
  induction s with
  | nil => rfl
  | cons c rest ih =>
    rw [List.map_cons, fieldsOf, fieldsOf, ih]
    by_cases hc : c = sep
    · rw [if_pos hc, if_pos ((h c).mpr hc)]
      rfl
    · rw [if_neg hc, if_neg fun heq => hc ((h c).mp heq)]
      cases fieldsOf sep rest with
      | nil => rfl
      | cons first others => rfl

theorem toList_join (between : String) (strings : List String) :
    (join between strings).toList = between.toList.intercalate (strings.map String.toList) := by
  induction strings with
  | nil => rfl
  | cons s rest ih =>
    cases rest with
    | nil => rw [join, List.map_singleton, List.intercalate_singleton]
    | cons t rest =>
      have hjoin : join between (s :: t :: rest) = s ++ between ++ join between (t :: rest) := rfl
      rw [hjoin, String.toList_append, String.toList_append, ih]
      exact (List.intercalate_cons_cons).symm

/-- A text comes back from its fields. -/
theorem join_fields (sep : Char) (s : String) : join (String.ofList [sep]) (fields sep s) = s := by
  have hchars : ((fields sep s).map String.toList) = s.toList.splitOn sep := by
    rw [fields, List.map_map, fieldsOf_eq_splitOn]
    exact (List.map_congr_left fun t _ => String.toList_ofList).trans (List.map_id _)
  rw [← String.toList_inj, toList_join, hchars, String.toList_ofList]
  exact List.intercalate_splitOn sep

/-- Fields come back when they have no separator in them. -/
theorem fields_join {sep : Char} {parts : List String} (hne : parts ≠ [])
    (h : ∀ part ∈ parts, sep ∉ part.toList) :
    fields sep (join (String.ofList [sep]) parts) = parts := by
  have hchars : parts.map String.toList ≠ [] := fun hnil => hne (List.map_eq_nil_iff.mp hnil)
  rw [fields, fieldsOf_eq_splitOn, toList_join, String.toList_ofList,
    List.splitOn_intercalate sep (List.forall_mem_map.mpr h) hchars, List.map_map]
  exact (List.map_congr_left fun t _ => String.ofList_toList).trans (List.map_id _)

/-! ### Words -/

theorem wordsAfter_ne_nil {word s : List Char} (h : word ≠ [] ∨ ∃ c ∈ s, isBlank c = false) :
    wordsAfter word s ≠ [] := by
  induction s generalizing word with
  | nil =>
    have hword : word ≠ [] := h.resolve_right fun ⟨c, hc, _⟩ => List.not_mem_nil hc
    rw [wordsAfter, if_neg (by rwa [List.isEmpty_iff])]
    exact List.cons_ne_nil _ _
  | cons c rest ih =>
    rw [wordsAfter]
    by_cases hblank : isBlank c = true
    · rw [if_pos hblank]
      split
      · rename_i hempty
        -- no word has begun, so the character that is no blank is further on
        refine ih (.inr ?_)
        obtain ⟨d, hd, hplain⟩ := h.resolve_left fun hne => hne (List.isEmpty_iff.mp hempty)
        obtain rfl | hd := List.mem_cons.mp hd
        · rw [hblank] at hplain
          exact absurd hplain (by decide)
        · exact ⟨d, hd, hplain⟩
      · exact List.cons_ne_nil _ _
    · rw [if_neg hblank]
      exact ih (.inl (List.concat_ne_nil _ _))

/-- **A text that is not blank has a word.** -/
theorem words_trim_ne_nil {s : String} (h : trim s ≠ "") : words (trim s) ≠ [] := by
  have hlast : (s.toList.dropWhile isBlank).reverse.dropWhile isBlank ≠ [] := by
    intro hnil
    rw [trim, trimChars, trimEndChars, hnil] at h
    exact h rfl
  have hlength := List.length_pos_iff.mpr hlast
  rw [words, trim, String.toList_ofList, ne_eq, List.map_eq_nil_iff]
  refine wordsAfter_ne_nil (.inr ⟨_, List.mem_reverse.mpr (List.getElem_mem hlength), ?_⟩)
  rw [← Bool.not_eq_true]
  exact List.dropWhile_get_zero_not isBlank _ hlength

/-! ### Texts without blanks at their ends -/

/-- A text that is not empty and has no blank at either end. -/
structure Trimmed (s : List Char) : Prop where
  ne_nil : s ≠ []
  first : ∀ c ∈ s.head?, isBlank c = false
  last : ∀ c ∈ s.getLast?, isBlank c = false

/-- A word that is not empty is trimmed. -/
theorem trimmed_of_word {w : List Char} (hne : w ≠ []) (h : ∀ c ∈ w, isBlank c = false) :
    Trimmed w where
  ne_nil := hne
  first := fun c hc => h c (List.mem_of_head? hc)
  last := fun c hc => h c (List.mem_of_getLast? hc)

/-- What stands between trimmed texts does not count. -/
theorem Trimmed.append {s t : List Char} (hs : Trimmed s) (ht : Trimmed t) (between : List Char) :
    Trimmed (s ++ between ++ t) where
  ne_nil := fun hnil => ht.ne_nil (List.append_eq_nil_iff.mp hnil).2
  first := by
    obtain ⟨c, rest, rfl⟩ := List.exists_cons_of_ne_nil hs.ne_nil
    exact hs.first
  last := by
    have hlast := List.getLast?_eq_some_getLast ht.ne_nil
    rw [List.getLast?_append, hlast, Option.some_or, ← hlast]
    exact ht.last

theorem dropWhile_isBlank_of_head {s : List Char} (h : ∀ c ∈ s.head?, isBlank c = false) :
    s.dropWhile isBlank = s := by
  cases s with
  | nil => rfl
  | cons c rest =>
    rw [List.dropWhile_cons, h c rfl]
    rfl

/-- **Trimming leaves a trimmed text as it is.** -/
theorem trim_of_trimmed {s : String} (h : Trimmed s.toList) : trim s = s := by
  have hlast : ∀ c ∈ s.toList.reverse.head?, isBlank c = false := by
    rw [List.head?_reverse]
    exact h.last
  rw [trim, trimChars, trimEndChars, dropWhile_isBlank_of_head h.first,
    dropWhile_isBlank_of_head hlast, List.reverse_reverse, String.ofList_toList]

/-- A word goes on to the next blank. -/
theorem wordsAfter_append {w : List Char} (h : ∀ c ∈ w, isBlank c = false) (rest : List Char) :
    ∀ word : List Char, wordsAfter word (w ++ rest) = wordsAfter (word ++ w) rest := by
  induction w with
  | nil => intro word; rw [List.nil_append, List.append_nil]
  | cons c w ih =>
    rw [List.forall_mem_cons] at h
    intro word
    rw [List.cons_append, wordsAfter, h.1, if_neg Bool.false_ne_true, ih h.2, List.append_assoc,
      List.singleton_append]

/-- Words with single spaces between them, as characters. -/
theorem wordsAfter_intercalate {list : List (List Char)}
    (h : ∀ w ∈ list, w ≠ [] ∧ ∀ c ∈ w, isBlank c = false) :
    wordsAfter [] ([' '].intercalate list) = list := by
  induction list with
  | nil => rfl
  | cons w rest ih =>
    rw [List.forall_mem_cons] at h
    obtain ⟨⟨hne, hword⟩, hrest⟩ := h
    have hempty : w.isEmpty = false := List.isEmpty_eq_false_iff.mpr hne
    cases rest with
    | nil =>
      rw [List.intercalate_singleton, ← List.append_nil w, wordsAfter_append hword,
        List.append_nil, List.nil_append, wordsAfter, hempty, if_neg Bool.false_ne_true]
    | cons v rest =>
      have hspace : isBlank ' ' = true := by decide
      rw [List.intercalate_cons_cons, List.append_assoc, wordsAfter_append hword, List.nil_append,
        List.singleton_append, wordsAfter, hspace, if_pos rfl, hempty, if_neg Bool.false_ne_true,
        ih hrest]

/-- **Words with single spaces between them come back**, and there is nothing to trim. -/
theorem words_join {list : List String}
    (h : ∀ w ∈ list, w ≠ "" ∧ ∀ c ∈ w.toList, isBlank c = false) :
    words (join " " list) = list := by
  have hchars : ∀ w ∈ list.map String.toList, w ≠ [] ∧ ∀ c ∈ w, isBlank c = false := by
    rw [List.forall_mem_map]
    exact fun w hw => ⟨fun hnil => (h w hw).1 (String.toList_eq_nil_iff.mp hnil), (h w hw).2⟩
  rw [words, toList_join]
  show (wordsAfter [] ([' '].intercalate (list.map String.toList))).map String.ofList = list
  rw [wordsAfter_intercalate hchars, List.map_map]
  exact (List.map_congr_left fun w _ => String.ofList_toList).trans (List.map_id _)

theorem trimmed_join {list : List String} (hne : list ≠ [])
    (h : ∀ w ∈ list, w ≠ "" ∧ ∀ c ∈ w.toList, isBlank c = false) :
    Trimmed (join " " list).toList := by
  rw [toList_join]
  induction list with
  | nil => exact absurd rfl hne
  | cons w rest ih =>
    rw [List.forall_mem_cons] at h
    obtain ⟨⟨hempty, hword⟩, hrest⟩ := h
    have hw : Trimmed w.toList :=
      trimmed_of_word (fun hnil => hempty (String.toList_eq_nil_iff.mp hnil)) hword
    cases rest with
    | nil =>
      rw [List.map_singleton, List.intercalate_singleton]
      exact hw
    | cons v rest =>
      rw [List.map_cons, List.map_cons, List.intercalate_cons_cons]
      exact hw.append (ih (List.cons_ne_nil v rest) hrest) _

end Phrasebook.Text
