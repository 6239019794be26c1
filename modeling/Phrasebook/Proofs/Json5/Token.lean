import Phrasebook.Json5.Token
import Phrasebook.Proofs.Json5.StringBody

/-!
# Writing the tokens of an object

In front of every token, and behind the last one, there may be blanks and comments.  What looks like
a comment inside a string is none, as a string is one token:

* `Gap`, `LastGap` — blanks and comments, in front of a token and at the end of a text;
* `Writes`, `Written` — how a token may be written, and how tokens in a row may be;
* `tokens_gap`, `tokens_lastGap` — no token comes from blanks and comments;
* `Writes.tokens_append`, `Written.tokens_eq` — the tokens of a text are those it is written for;
* `exists_written` — tokens that can be written can be written in a row.
-/

namespace Phrasebook.Json5

open Phrasebook.Text

/-! ### Blanks and comments -/

/-- Blanks and comments in front of a token.  A comment that ends with its line has this end behind
it, and the other kind goes on to the first star with a slash behind it. -/
inductive Gap : List Char → Prop
  | nil : Gap []
  | blank {c : Char} {rest : List Char} (hblank : isGap c = true) (hrest : Gap rest) :
      Gap (c :: rest)
  | line {comment rest : List Char} {e : Char} (hcomment : ∀ c ∈ comment, isTerminator c = false)
      (hends : isTerminator e = true) (hrest : Gap rest) :
      Gap ('/' :: '/' :: comment ++ e :: rest)
  | block {comment rest : List Char} (hcomment : ¬ ['*', '/'] <:+: comment) (hrest : Gap rest) :
      Gap ('/' :: '*' :: comment ++ '*' :: '/' :: rest)

/-- Blanks and comments at the end of a text, where the last line may have no end. -/
inductive LastGap : List Char → Prop
  | closed {gap : List Char} (hgap : Gap gap) : LastGap gap
  | line {gap comment : List Char} (hgap : Gap gap)
      (hcomment : ∀ c ∈ comment, isTerminator c = false) : LastGap (gap ++ '/' :: '/' :: comment)

/-- What is found at a character comes first, and the tokens behind it follow. -/
theorem tokens_cons {c : Char} {rest after : List Char} {t : Option Token}
    (h : next c rest = some (t, after)) : tokens (c :: rest) = t.toList ++ tokens after := by
  rw [tokens]
  split
  · rename_i heq
    rw [h, Option.some.injEq, Prod.mk.injEq] at heq
    rw [heq.1, heq.2]
  · rename_i heq
    rw [h] at heq
    exact absurd heq (by simp)

theorem tokens_blank {c : Char} (h : isGap c = true) (rest : List Char) :
    tokens (c :: rest) = tokens rest :=
  tokens_cons (t := none) (by rw [next, if_pos h])

/-- A comment is no token. -/
theorem tokens_comment {rest after : List Char} (h : commentEnd? rest = some after) :
    tokens ('/' :: rest) = tokens after := by
  have hslash : isGap '/' = false := by decide
  refine tokens_cons (t := none) ?_
  rw [next, hslash, if_neg Bool.false_ne_true, if_pos rfl, h]
  rfl

theorem isGap_of_isTerminator {c : Char} (h : isTerminator c = true) : isGap c = true := by
  simp [isGap, h]

/-- A comment goes on to the end of its line, or of the text. -/
theorem commentEnd?_line {comment rest : List Char}
    (hcomment : ∀ c ∈ comment, isTerminator c = false)
    (hrest : ∀ c ∈ rest.head?, isTerminator c = true) :
    commentEnd? ('/' :: (comment ++ rest)) = some rest := by
  have hdrop : rest.dropWhile (!isTerminator ·) = rest := by
    cases rest with
    | nil => rfl
    | cons c rest => rw [List.dropWhile_cons, hrest c rfl, Bool.not_true, if_neg Bool.false_ne_true]
  rw [commentEnd?, List.dropWhile_append_of_pos, hdrop]
  intro c hc
  rw [hcomment c hc]
  rfl

/-- A block comment goes on to the first star with a slash behind it. -/
theorem blockCommentEnd?_append {comment : List Char} (h : ¬ ['*', '/'] <:+: comment)
    (rest : List Char) : blockCommentEnd? (comment ++ '*' :: '/' :: rest) = some rest := by
  induction comment with
  | nil => rfl
  | cons c comment ih =>
    rw [List.cons_append, blockCommentEnd?]
    · exact ih fun hin => h (hin.trans (List.suffix_cons c comment).isInfix)
    · -- the star would be the last one, or the comment would have ended
      intro after hc hafter
      cases comment with
      | nil => exact absurd (List.head_eq_of_cons_eq hafter) (by decide)
      | cons d comment =>
        rw [hc, List.head_eq_of_cons_eq hafter] at h
        exact h (List.prefix_append ['*', '/'] comment).isInfix

/-- **No token comes from blanks and comments** in front of one. -/
theorem tokens_gap {gap : List Char} (h : Gap gap) (rest : List Char) :
    tokens (gap ++ rest) = tokens rest := by
  induction h with
  | nil => rfl
  | blank hblank _ ih => rw [List.cons_append, tokens_blank hblank, ih]
  | @line comment gap e hcomment hends _ ih =>
    have hend : commentEnd? ('/' :: (comment ++ e :: (gap ++ rest))) = some (e :: (gap ++ rest)) :=
      commentEnd?_line hcomment fun c hc => by rw [← Option.some.inj hc, hends]
    simp only [List.append_assoc, List.cons_append]
    rw [tokens_comment hend, tokens_blank (isGap_of_isTerminator hends), ih]
  | @block comment gap hcomment _ ih =>
    have hend : commentEnd? ('*' :: (comment ++ '*' :: '/' :: (gap ++ rest))) =
        some (gap ++ rest) := blockCommentEnd?_append hcomment _
    simp only [List.append_assoc, List.cons_append]
    rw [tokens_comment hend, ih]

/-- No token comes from what is behind the last one. -/
theorem tokens_lastGap {gap : List Char} (h : LastGap gap) : tokens gap = [] := by
  have hnil : tokens [] = [] := by rw [tokens]
  cases h with
  | closed hgap => rw [← List.append_nil gap, tokens_gap hgap, hnil]
  | @line gap comment hgap hcomment =>
    have hend : commentEnd? ('/' :: (comment ++ [])) = some [] :=
      commentEnd?_line hcomment fun c hc => absurd hc (by simp)
    rw [List.append_nil] at hend
    rw [tokens_gap hgap, tokens_comment hend, hnil]

/-! ### Tokens -/

/-- How the tokens of an object of strings may be written. -/
inductive Writes : Token → List Char → Prop
  | openBrace : Writes .openBrace ['\x7b']
  | closeBrace : Writes .closeBrace ['\x7d']
  | colon : Writes .colon [':']
  | comma : Writes .comma [',']
  | string {quote : Char} {body chars : List Char} (hquote : quote ∈ quotes)
      (hbody : Spelling quote body chars) :
      Writes (.string (ofChars chars)) (quote :: body ++ [quote])

/-- How tokens in a row may be written, with blanks and comments around them. -/
inductive Written : List Token → List Char → Prop
  | nil {gap : List Char} (hgap : LastGap gap) : Written [] gap
  | cons {gap writing rest : List Char} {t : Token} {ts : List Token} (hgap : Gap gap)
      (htoken : Writes t writing) (hrest : Written ts rest) :
      Written (t :: ts) (gap ++ writing ++ rest)

/-- A quote begins a string. -/
theorem next_quote {quote : Char} (hquote : quote ∈ quotes) (rest : List Char) :
    next quote rest = (stringBody quote rest).map fun p => (some (.string p.1), p.2) := by
  have hread : next quote rest =
      ((stringBody quote rest).map fun p => (Token.string p.1, p.2)).map fun p =>
        (some p.1, p.2) := by
    simp only [quotes, List.mem_cons, List.not_mem_nil, or_false] at hquote
    rcases hquote with rfl | rfl <;> rfl
  rw [hread, Option.map_map]
  rfl

/-- **A token is read as it is written**, whatever stands behind it. -/
theorem Writes.tokens_append {t : Token} {writing : List Char} (h : Writes t writing)
    (rest : List Char) : tokens (writing ++ rest) = t :: tokens rest := by
  cases h with
  | openBrace => exact tokens_cons (t := some .openBrace) rfl
  | closeBrace => exact tokens_cons (t := some .closeBrace) rfl
  | colon => exact tokens_cons (t := some .colon) rfl
  | comma => exact tokens_cons (t := some .comma) rfl
  | @string quote body chars hquote hbody =>
    have hread : next quote (body ++ quote :: rest) =
        some (some (.string (ofChars chars)), rest) := by
      rw [next_quote hquote, hbody.stringBody_append hquote]
      rfl
    rw [List.append_assoc, List.cons_append]
    exact tokens_cons hread

/-- **The tokens of a text are those it is written for.** -/
theorem Written.tokens_eq {ts : List Token} {text : List Char} (h : Written ts text) :
    tokens text = ts := by
  induction h with
  | nil hgap => exact tokens_lastGap hgap
  | cons hgap htoken _ ih =>
    rw [List.append_assoc, tokens_gap hgap, htoken.tokens_append, ih]

/-- Tokens that can be written can be written in a row. -/
theorem exists_written {ts : List Token} (h : ∀ t ∈ ts, ∃ writing, Writes t writing) :
    ∃ text, Written ts text := by
  induction ts with
  | nil => exact ⟨[], .nil (.closed .nil)⟩
  | cons t ts ih =>
    rw [List.forall_mem_cons] at h
    obtain ⟨⟨writing, hwriting⟩, hrest⟩ := h
    obtain ⟨text, htext⟩ := ih hrest
    exact ⟨_, .cons .nil hwriting htext⟩

end Phrasebook.Json5
