import Phrasebook.Entry
import Phrasebook.Proofs.CSharp.DocComment

/-!
# What a documentation comment shows

The text of an entry is escaped for the comments of its constant and of its method, and whoever
reads such a comment sees the text again, on one line:

* `DocComment.replaceChar`, `DocComment.escapeMarkup` — the escapes, one kind of character after the
  other;
* `DocComment.flatten_eq_joinTexts` — a text on one line is its lines with spaces between them;
* `DocComment.encode_eq_flatten` — a comment is the escaped text on one line;
* `DocComment.decode_encode` — reading a comment undoes the escapes, and nothing else;
* `DocComment.WholeEntities`, `DocComment.wholeEntities_encode` — every `&` begins an entity;
* `docText_shows_text` — all of it for the text of an entry.
-/

namespace Phrasebook

open Phrasebook.CSharp Phrasebook.Text

namespace CSharp.DocComment

/-- Code points by how they are written: three of them are markup, and all others are not. -/
@[elab_as_elim]
theorem markupCases {holds : Point → Prop} (ampersand : holds (.char '&'))
    (less : holds (.char '<')) (greater : holds (.char '>'))
    (other : ∀ p, p ≠ .char '&' → p ≠ .char '<' → p ≠ .char '>' → holds p) (p : Point) :
    holds p := by
  by_cases hamp : p = .char '&'
  · rw [hamp]
    exact ampersand
  · by_cases hless : p = .char '<'
    · rw [hless]
      exact less
    · by_cases hgreater : p = .char '>'
      · rw [hgreater]
        exact greater
      · exact other p hamp hless hgreater

/-! ### Escapes, one kind of character after the other -/

/-- The text with something else for every occurrence of a character. -/
def replaceChar (c : Char) (written : String) (t : Text) : Text :=
  t.flatMap fun p => if p = .char c then ofString written else [p]

/-- The text with its markup escaped: first `&`, then `<`, then `>`, each of them in the whole
text. -/
def escapeMarkup (t : Text) : Text :=
  replaceChar '>' "&gt;" (replaceChar '<' "&lt;" (replaceChar '&' "&amp;" t))

theorem escapeMarkup_cons (p : Point) (t : Text) :
    escapeMarkup (p :: t) = escapeMarkup [p] ++ escapeMarkup t := by
  have happend : ∀ c written (s u : Text),
      replaceChar c written (s ++ u) = replaceChar c written s ++ replaceChar c written u :=
    fun c written s u => List.flatMap_append
  show escapeMarkup ([p] ++ t) = _
  rw [escapeMarkup, happend, happend, happend]
  rfl

/-- What is no markup stays as it is. -/
theorem escapeMarkup_of_ne {p : Point} (hamp : p ≠ .char '&') (hless : p ≠ .char '<')
    (hgreater : p ≠ .char '>') : escapeMarkup [p] = [p] := by
  have hkept : ∀ c written, p ≠ .char c → replaceChar c written [p] = [p] := by
    intro c written hne
    rw [replaceChar, List.flatMap_singleton, if_neg hne]
  rw [escapeMarkup, hkept '&' _ hamp, hkept '<' _ hless, hkept '>' _ hgreater]

/-- An escaped text begins with LF only if the text does: every entity begins with `&`. -/
theorem exists_eq_of_escapeMarkup {t u : Text} (h : escapeMarkup t = .char '\n' :: u) :
    ∃ rest, t = .char '\n' :: rest := by
  cases t with
  | nil => exact absurd h (by simp [escapeMarkup, replaceChar])
  | cons p rest =>
    rw [escapeMarkup_cons] at h
    induction p using markupCases with
    | ampersand | less | greater => exact absurd (List.head_eq_of_cons_eq h) (by decide)
    | other p hamp hless hgreater =>
      rw [escapeMarkup_of_ne hamp hless hgreater] at h
      exact ⟨rest, by rw [List.head_eq_of_cons_eq h]⟩

/-! ### Texts on one line -/

theorem flattenPoint_of_endsLine {p : Point} (h : p.endsLine = true) :
    flattenPoint p = .char ' ' := by
  cases p with
  | half _ => exact absurd h Bool.false_ne_true
  | char c =>
    change isLineEnd c = true at h
    rw [flattenPoint, if_pos h]

theorem flattenPoint_of_not_endsLine {p : Point} (h : ¬ p.endsLine = true) :
    flattenPoint p = p := by
  cases p with
  | half _ => rfl
  | char c =>
    change ¬ isLineEnd c = true at h
    rw [flattenPoint, if_neg h]

/-- Nothing but a space comes in where a line ends. -/
theorem flattenPoint_ne {p q : Point} (h : p ≠ q) (hq : q ≠ .char ' ') : flattenPoint p ≠ q := by
  by_cases hends : p.endsLine = true
  · rw [flattenPoint_of_endsLine hends]
    exact hq.symm
  · rwa [flattenPoint_of_not_endsLine hends]

theorem physicalLines_ne_nil (t : Text) : physicalLines t ≠ [] := by
  fun_cases physicalLines t <;> simp_all

/-- **A text on one line** is its lines with a space between neighbours. -/
theorem flatten_eq_joinTexts (t : Text) :
    flatten t = joinTexts [.char ' '] (physicalLines t) := by
  -- a line that ends at once puts a space in front of the others
  have hbreak : ∀ u, joinTexts [.char ' '] ([] :: physicalLines u) =
      .char ' ' :: joinTexts [.char ' '] (physicalLines u) := by
    intro u
    cases hlines : physicalLines u with
    | nil => exact absurd hlines (physicalLines_ne_nil u)
    | cons line lines =>
      rw [joinTexts, List.intercalate_cons_cons]
      rfl
  fun_induction flatten t with
  | case1 => rfl
  | case2 rest ih => rw [physicalLines, hbreak, ih]
  | case3 p rest hcrlf ih =>
    rw [ih, physicalLines]
    · by_cases hends : p.endsLine = true
      · rw [if_pos hends, hbreak, flattenPoint_of_endsLine hends]
      · rw [if_neg hends, flattenPoint_of_not_endsLine hends]
        cases hlines : physicalLines rest with
        | nil => exact absurd hlines (physicalLines_ne_nil rest)
        | cons line lines =>
          cases lines with
          | nil => rfl
          | cons next lines =>
            rw [joinTexts, joinTexts, List.intercalate_cons_cons, List.intercalate_cons_cons]
            rfl
    · exact hcrlf

/-! ### How a comment is written -/

/-- What is no markup is written as itself, or as a space where it ends a line. -/
theorem encodePoint_of_ne {p : Point} (hamp : p ≠ .char '&') (hless : p ≠ .char '<')
    (hgreater : p ≠ .char '>') : encodePoint p = [flattenPoint p] := by
  cases p with
  | half h => rfl
  | char c =>
    rw [ne_eq, Point.char.injEq] at hamp hless hgreater
    rw [encodePoint, encodeChar, if_neg hamp, if_neg hless, if_neg hgreater, flattenPoint]
    split <;> rfl

/-- **A comment is the escaped text on one line**: no entity has a line break in it, and no line
break is taken apart. -/
theorem encode_eq_flatten (t : Text) : encode t = flatten (escapeMarkup t) := by
  fun_induction encode t with
  | case1 => rfl
  | case2 rest ih =>
    rw [escapeMarkup_cons, escapeMarkup_cons, ih]
    rfl
  | case3 p rest hcrlf ih =>
    rw [escapeMarkup_cons, ih]
    induction p using markupCases with
    | ampersand | less | greater => rfl
    | other p hamp hless hgreater =>
      rw [escapeMarkup_of_ne hamp hless hgreater, encodePoint_of_ne hamp hless hgreater,
        List.singleton_append, List.singleton_append, flatten]
      intro u hreturn hnewline
      obtain ⟨tail, htail⟩ := exists_eq_of_escapeMarkup hnewline
      exact hcrlf tail hreturn htail

/-! ### Reading a comment -/

/-- What is no `&` is read as it stands. -/
theorem decode_cons {p : Point} (h : p ≠ .char '&') (t : Text) :
    decode (p :: t) = p :: decode t := by
  rw [decode] <;> exact fun _ hamp => absurd hamp h

/-- Each code point is read from what is written for it, whatever follows. -/
theorem decode_encodePoint_append (p : Point) (t : Text) :
    decode (encodePoint p ++ t) = flattenPoint p :: decode t := by
  induction p using markupCases with
  | ampersand | less | greater => rfl
  | other p hamp hless hgreater =>
    rw [encodePoint_of_ne hamp hless hgreater, List.singleton_append,
      decode_cons (flattenPoint_ne hamp (by decide))]

/-- **Reading a comment gives the text on one line**: all escapes are undone, and nothing else. -/
theorem decode_encode (t : Text) : decode (encode t) = flatten t := by
  fun_induction encode t with
  | case1 => rfl
  | case2 rest ih => rw [decode_cons (by decide), ih, flatten]
  | case3 p rest hcrlf ih =>
    rw [decode_encodePoint_append, ih, flatten]
    exact hcrlf

/-! ### No markup in a comment -/

/-- A comment has no `<` and no `>`. -/
theorem encode_no_markup (t : Text) : ∀ p ∈ encode t, p ≠ .char '<' ∧ p ≠ .char '>' := by
  have hpoint : ∀ p, ∀ q ∈ encodePoint p, q ≠ .char '<' ∧ q ≠ .char '>' := by
    intro p
    induction p using markupCases with
    | ampersand | less | greater => decide
    | other p hamp hless hgreater =>
      rw [encodePoint_of_ne hamp hless hgreater, List.forall_mem_singleton]
      exact ⟨flattenPoint_ne hless (by decide), flattenPoint_ne hgreater (by decide)⟩
  fun_induction encode t with
  | case1 => exact List.forall_mem_nil _
  | case2 rest ih => exact List.forall_mem_cons.mpr ⟨by decide, ih⟩
  | case3 p rest hcrlf ih => exact List.forall_mem_append.mpr ⟨hpoint p, ih⟩

/-- Every `&` of the text begins one of the three entities. -/
def WholeEntities (t : Text) : Prop :=
  ∀ after, .char '&' :: after <:+ t →
    ofString "amp;" <+: after ∨ ofString "lt;" <+: after ∨ ofString "gt;" <+: after

theorem wholeEntities_cons {p : Point} {t : Text} (h : p ≠ .char '&') (ht : WholeEntities t) :
    WholeEntities (p :: t) := by
  intro after hsuffix
  rcases List.suffix_cons_iff.mp hsuffix with heq | hsuffix
  · exact absurd (List.head_eq_of_cons_eq heq).symm h
  · exact ht after hsuffix

theorem wholeEntities_ampersand {t : Text}
    (h : ofString "amp;" <+: t ∨ ofString "lt;" <+: t ∨ ofString "gt;" <+: t)
    (ht : WholeEntities t) : WholeEntities (.char '&' :: t) := by
  intro after hsuffix
  rcases List.suffix_cons_iff.mp hsuffix with heq | hsuffix
  · rwa [List.tail_eq_of_cons_eq heq]
  · exact ht after hsuffix

theorem wholeEntities_encodePoint_append (p : Point) {t : Text} (ht : WholeEntities t) :
    WholeEntities (encodePoint p ++ t) := by
  induction p using markupCases with
  | ampersand =>
    refine wholeEntities_ampersand (.inl (List.prefix_append (ofString "amp;") t)) ?_
    exact wholeEntities_cons (by decide) (wholeEntities_cons (by decide)
      (wholeEntities_cons (by decide) (wholeEntities_cons (by decide) ht)))
  | less =>
    refine wholeEntities_ampersand (.inr (.inl (List.prefix_append (ofString "lt;") t))) ?_
    exact wholeEntities_cons (by decide) (wholeEntities_cons (by decide)
      (wholeEntities_cons (by decide) ht))
  | greater =>
    refine wholeEntities_ampersand (.inr (.inr (List.prefix_append (ofString "gt;") t))) ?_
    exact wholeEntities_cons (by decide) (wholeEntities_cons (by decide)
      (wholeEntities_cons (by decide) ht))
  | other p hamp hless hgreater =>
    rw [encodePoint_of_ne hamp hless hgreater, List.singleton_append]
    exact wholeEntities_cons (flattenPoint_ne hamp (by decide)) ht

/-- **Every `&` of a comment begins an entity.** -/
theorem wholeEntities_encode (t : Text) : WholeEntities (encode t) := by
  fun_induction encode t with
  | case1 =>
    intro after hsuffix
    exact absurd (List.suffix_nil.mp hsuffix) (by simp)
  | case2 rest ih => exact wholeEntities_cons (by decide) ih
  | case3 p rest hcrlf ih => exact wholeEntities_encodePoint_append p ih

end CSharp.DocComment

/-! ### The text of an entry -/

/-- **The comment of an entry shows its text, and loses nothing of it.**

* It has no `<`, no `>` and no line end, and every `&` in it begins an entity.
* With these entities read once from the left it is the text on one line: the lines of the text with
  a space for each line break between them.  A text of one line is shown as it is, with the entities
  that it has itself.
* It is what escaping `&`, then `<`, then `>` in the whole text gives, and a space for each line
  break after that. -/
theorem docText_shows_text (e : Entry) :
    ((∀ p ∈ e.docText, p ≠ .char '<' ∧ p ≠ .char '>') ∧ Unbroken e.docText ∧
      DocComment.WholeEntities e.docText) ∧
    DocComment.decode e.docText = joinTexts [.char ' '] (physicalLines e.text) ∧
    (Unbroken e.text → DocComment.decode e.docText = e.text) ∧
    e.docText = joinTexts [.char ' '] (physicalLines (DocComment.escapeMarkup e.text)) := by
  have hshown : DocComment.decode e.docText = joinTexts [.char ' '] (physicalLines e.text) := by
    rw [Entry.docText, DocComment.decode_encode, DocComment.flatten_eq_joinTexts]
  refine ⟨⟨DocComment.encode_no_markup e.text, DocComment.unbroken_encode e.text,
    DocComment.wholeEntities_encode e.text⟩, hshown, fun hline => ?_, ?_⟩
  · rw [hshown, physicalLines_of_unbroken hline, joinTexts, List.intercalate_singleton]
  · rw [Entry.docText, DocComment.encode_eq_flatten, DocComment.flatten_eq_joinTexts]

/-- An entry whose text has entities in it already. -/
def escapedEntry : Entry := ⟨"k", "K", "a &lt; b &amp;lt; c &", []⟩

/-- Entities in a text are shown as they are. -/
theorem docText_shows_text_escaped :
    escapedEntry.docText = ofString "a &amp;lt; b &amp;amp;lt; c &amp;" ∧
      Unbroken escapedEntry.text ∧
      DocComment.decode escapedEntry.docText = ofString "a &lt; b &amp;lt; c &" := by
  have hline : Unbroken escapedEntry.text := unbroken_ofList (by decide)
  exact ⟨by decide, hline, (docText_shows_text escapedEntry).2.2.1 hline⟩

end Phrasebook
