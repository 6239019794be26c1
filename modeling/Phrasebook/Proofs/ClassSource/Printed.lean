import Phrasebook.Proofs.ClassSource.Unbroken
import Phrasebook.Proofs.Text.Terminal

/-!
# A class as it is encoded and printed

The free text in a class decides whether the class can be encoded, and whether it is printed as it
is:

* `Whole`, `whole_iff` — a text without halves of characters, which is the text of a string;
* `CSharp.DocComment.whole_encode`, `CSharp.StringLiteral.whole_encode` — comments and literals
  bring no half in;
* `whole_source` — a class can be encoded if no key and no text in it has a half;
* `infix_source` — the text of an entry stands in the class;
* `uncontrolled_docText` — a class that is printed as it is has no control sequence in a text.
-/

namespace Phrasebook

open Phrasebook.CSharp Phrasebook.Text

/-! ### Texts without halves -/

/-- A text without halves of characters. -/
def Whole (t : Text) : Prop :=
  ∀ p ∈ t, ∃ c, p = .char c

theorem whole_nil : Whole [] := by
  intro p hp
  exact absurd hp List.not_mem_nil

theorem whole_append {s t : Text} : Whole (s ++ t) ↔ Whole s ∧ Whole t :=
  List.forall_mem_append

theorem whole_ofChars (s : List Char) : Whole (ofChars s) := by
  intro p hp
  obtain ⟨c, -, rfl⟩ := List.mem_map.mp hp
  exact ⟨c, rfl⟩

theorem whole_ofString (s : String) : Whole (ofString s) :=
  whole_ofChars s.toList

theorem whole_plain (strings : List String) : ∀ line ∈ plain strings, Whole line := by
  rw [plain, List.forall_mem_map]
  exact fun s _ => whole_ofString s

theorem whole_joinTexts {between : Text} (hb : Whole between) {texts : List Text}
    (h : ∀ t ∈ texts, Whole t) : Whole (joinTexts between texts) :=
  forall_mem_joinTexts hb h

theorem whole_unlines {lines : List Text} (h : ∀ line ∈ lines, Whole line) :
    Whole (unlines lines) := by
  rw [Whole, unlines, List.forall_mem_flatMap]
  exact fun line hline => whole_append.mpr ⟨h line hline, whole_ofChars ['\n']⟩

/-- **The texts without halves are those of strings.** -/
theorem whole_iff {t : Text} : Whole t ↔ ∃ s, t = ofString s := by
  constructor
  · intro h
    refine ⟨String.ofList (t.filterMap Point.char?), ?_⟩
    rw [ofString, String.toList_ofList]
    induction t with
    | nil => rfl
    | cons p rest ih =>
      obtain ⟨⟨c, rfl⟩, hrest⟩ := List.forall_mem_cons.mp h
      rw [List.filterMap_cons_some (show Point.char? (.char c) = some c from rfl)]
      exact congrArg (Point.char c :: ·) (ih hrest)
  · rintro ⟨s, rfl⟩
    exact whole_ofString s

namespace CSharp

theorem DocComment.whole_encode {t : Text} (h : Whole t) : Whole (encode t) := by
  fun_induction encode t with
  | case1 => exact whole_nil
  | case2 rest ih =>
    have hrest := (List.forall_mem_cons.mp (List.forall_mem_cons.mp h).2).2
    exact List.forall_mem_cons.mpr ⟨⟨' ', rfl⟩, ih hrest⟩
  | case3 p rest _ ih =>
    obtain ⟨⟨c, rfl⟩, hrest⟩ := List.forall_mem_cons.mp h
    exact whole_append.mpr ⟨whole_ofChars _, ih hrest⟩

theorem StringLiteral.whole_encode {t : Text} (h : Whole t) : Whole (encode t) := by
  rw [encode, whole_append, whole_append]
  refine ⟨⟨whole_ofString _, ?_⟩, whole_ofString _⟩
  rw [Whole, encodeBody, List.forall_mem_flatMap]
  intro p hp
  obtain ⟨c, rfl⟩ := h p hp
  exact whole_ofChars _

end CSharp

/-! ### A class that can be encoded -/

theorem whole_anonymousMember (p : Placeholder) : Whole (anonymousMember p) := by
  unfold anonymousMember
  split
  · exact whole_ofString _
  · rw [whole_append, whole_append]
    exact ⟨⟨whole_ofString _, whole_ofString _⟩, whole_ofString _⟩

theorem whole_dictionaryItem (p : Placeholder) : Whole (dictionaryItem p) := by
  unfold dictionaryItem
  rw [whole_append, whole_append, whole_append]
  exact ⟨⟨⟨whole_ofString _, StringLiteral.whole_encode (whole_ofString _)⟩, whole_ofString _⟩,
    whole_ofString _⟩

/-- The names of placeholders have no halves in them. -/
theorem Entry.whole_bundle {e : Entry} : ∀ bundle ∈ e.bundle?, Whole bundle := by
  intro bundle hbundle
  rw [Entry.bundle?, Option.mem_def] at hbundle
  cases hstyle : e.style with
  | none =>
    rw [hstyle] at hbundle
    exact absurd hbundle (by simp)
  | anonymousObject =>
    rw [hstyle, Option.some.injEq] at hbundle
    rw [← hbundle, whole_append, whole_append]
    refine ⟨⟨whole_ofString _, whole_joinTexts (whole_ofString _) ?_⟩, whole_ofString _⟩
    rw [List.forall_mem_map]
    exact fun p _ => whole_anonymousMember p
  | dictionary =>
    rw [hstyle, Option.some.injEq] at hbundle
    rw [← hbundle, whole_append, whole_append]
    refine ⟨⟨whole_ofString _, whole_joinTexts (whole_ofString _) ?_⟩, whole_ofString _⟩
    rw [List.forall_mem_map]
    exact fun p _ => whole_dictionaryItem p

namespace ClassSource

variable {o : ClassOptions} {entries : List Entry} {e : Entry}

theorem whole_keyConstantLines (hkey : Whole e.key) (htext : Whole e.text) :
    ∀ line ∈ keyConstantLines e, Whole line := by
  simp only [keyConstantLines, List.forall_mem_cons, whole_append]
  and_intros
  · exact whole_ofString _
  · exact DocComment.whole_encode htext
  · exact whole_ofString _
  · exact whole_ofString _
  · exact whole_ofString _
  · exact whole_ofString _
  · exact StringLiteral.whole_encode hkey
  · exact whole_ofString _
  · exact List.forall_mem_nil _

theorem whole_keyConstantsLines (h : ∀ e ∈ entries, Whole e.key ∧ Whole e.text) :
    ∀ line ∈ keyConstantsLines entries, Whole line := by
  fun_induction keyConstantsLines entries with
  | case1 => exact List.forall_mem_nil _
  | case2 e => exact whole_keyConstantLines (h e List.mem_cons_self).1 (h e List.mem_cons_self).2
  | case3 e rest _ ih =>
    rw [List.forall_mem_cons] at h
    rw [List.forall_mem_append, List.forall_mem_cons]
    exact ⟨whole_keyConstantLines h.1.1 h.1.2, whole_nil, ih h.2⟩

theorem whole_accessorLines (htext : Whole e.text) : ∀ line ∈ accessorLines o e, Whole line := by
  have hbundle : Whole (e.bundle?.elim [] ((", " : Text) ++ ·)) := by
    cases hb : e.bundle? with
    | none => exact whole_nil
    | some bundle =>
      rw [Option.elim_some, whole_append]
      exact ⟨whole_ofString _, e.whole_bundle bundle hb⟩
  rw [accessorLines, List.forall_mem_append, List.forall_mem_append]
  refine ⟨⟨?_, whole_plain _⟩, ?_⟩
  · simp only [List.forall_mem_cons, summaryLine, whole_append]
    exact ⟨whole_nil, ⟨⟨whole_ofString _, DocComment.whole_encode htext⟩, whole_ofString _⟩,
      List.forall_mem_nil _⟩
  · simp only [List.forall_mem_cons, callLine, whole_append]
    and_intros
    · exact whole_ofString _
    · exact whole_ofString _
    · exact whole_ofString _
    · exact whole_ofString _
    · exact hbundle
    · exact whole_ofString _
    · exact whole_ofString _
    · exact List.forall_mem_nil _

/-- **A class can be encoded** if no key and no text in it has a half of a character. -/
theorem whole_source (h : ∀ e ∈ entries, Whole e.key ∧ Whole e.text) :
    Whole (source o entries) := by
  apply whole_unlines
  rw [lines, keyLines]
  simp only [List.forall_mem_append, List.forall_mem_flatMap]
  exact ⟨⟨⟨⟨whole_plain _, ⟨whole_plain _, whole_keyConstantsLines h⟩, whole_plain _⟩,
    whole_plain _⟩, fun e he => whole_accessorLines (h e he).2⟩, whole_plain _⟩

/-! ### A class that is not printed as it is -/

/-- The text of an entry stands in the class, as its comments show it. -/
theorem infix_source (he : e ∈ entries) : e.docText <:+: source o entries := by
  have hline : summaryLine e ∈ lines o entries :=
    mem_lines_of_entry o he _ (List.mem_append_right _
      (List.mem_append_left _ (List.mem_append_left _ (List.mem_cons_of_mem _ List.mem_cons_self))))
  have hsource : summaryLine e ++ [.char '\n'] <:+: source o entries :=
    List.infix_of_mem_flatten (List.mem_map_of_mem hline)
  have hcomment : e.docText <:+: summaryLine e := List.infix_append _ _ _
  exact (hcomment.trans (List.prefix_append _ _).isInfix).trans hsource

/-- **A class that is printed as it is** has no control sequence in any of its texts. -/
theorem uncontrolled_docText (h : Uncontrolled (source o entries)) :
    ∀ e ∈ entries, Uncontrolled e.docText :=
  fun _ he => h.of_infix (infix_source he)

end ClassSource

end Phrasebook
