import Phrasebook.Proofs.CSharp.Literal

/-!
# The grammar of regular literals

C# takes what stands between the quotes of a regular literal apart into elements: code points that
stand for themselves, short escapes and numbers.  The grammar is stated here on its own, apart from
the way in which texts are written:

* `Escape`, `Element`, `Spelling` — what may follow a backslash, the elements, and sequences of them,
  each with what it stands for;
* `decode_eq_some_iff` — the reader accepts exactly the literals of the grammar;
* `spelling_encodeBody` — every text is written as a spelling of itself;
* `backslashesAtEnd`, `Spelling.exists_element` — a reader that comes to a quote or a backslash
  behind an even number of backslashes stands at the beginning of an element;
* `encode_regular` — the literal of every text is well-formed and stands for this text alone.
-/

namespace Phrasebook.CSharp

open Phrasebook.Text

namespace StringLiteral

/-! ### Elements and spellings -/

/-- What may follow a backslash, with the code point that is meant: the letter of a short escape, or
`u` and exactly four hexadecimal digits. -/
inductive Escape : Text → Point → Prop
  | letter {l c : Char} (hletter : unescapeLetter? l = some c) : Escape [.char l] (.char c)
  | number {a b c d : Char} {n : Nat} (hnumber : hexNumber? [a, b, c, d] = some n) :
      Escape (ofChars ['u', a, b, c, d]) (.ofUnit n)

/-- An element of a literal, with the code point that it stands for. -/
inductive Element : Text → Point → Prop
  | escape {tail : Text} {p : Point} (hescape : Escape tail p) : Element (.char '\\' :: tail) p
  | plain {p : Point} (hquote : p ≠ .char '"') (hbackslash : p ≠ .char '\\')
      (hends : p.endsLine = false) : Element [p] p

/-- Elements in a row, with the text that they stand for. -/
inductive Spelling : Text → Text → Prop
  | nil : Spelling [] []
  | cons {e rest value : Text} {p : Point} (helement : Element e p) (hrest : Spelling rest value) :
      Spelling (e ++ rest) (p :: value)

/-! ### Reading is by the grammar -/

theorem letter_ne_u {l c : Char} (h : unescapeLetter? l = some c) : l ≠ 'u' := by
  intro hl
  rw [hl] at h
  exact absurd h (by simp [unescapeLetter?])

/-- **An element is read as what it stands for**, whatever stands behind it. -/
theorem Element.decodeBody_append {e : Text} {p : Point} (h : Element e p) (rest : Text) :
    decodeBody (e ++ rest) = (decodeBody rest).map (p :: ·) := by
  cases h with
  | escape hescape =>
    cases hescape with
    | @letter l c hletter =>
      show decodeBody (.char '\\' :: .char l :: rest) = _
      rw [decodeBody_letter (letter_ne_u hletter), hletter]
    | @number a b c d n hnumber =>
      show decodeBody
        (.char '\\' :: .char 'u' :: .char a :: .char b :: .char c :: .char d :: rest) = _
      rw [decodeBody, hnumber]
  | plain hquote hbackslash hends =>
    cases p with
    | half q => rfl
    | char c =>
      exact decodeBody_plain (fun hc => hquote (congrArg Point.char hc))
        (fun hc => hbackslash (congrArg Point.char hc)) hends rest

/-- A spelling that a closing quote ends is read as the text that it stands for. -/
theorem Spelling.decodeBody_eq {body value : Text} (h : Spelling body value) :
    decodeBody (body ++ [.char '"']) = some value := by
  induction h with
  | nil => rfl
  | cons helement _ ih => rw [List.append_assoc, helement.decodeBody_append, ih, Option.map_some]

/-- A code point that is not special is no backslash and ends no line. -/
theorem plain_of_not_special {p : Point} (h : ¬ isSpecial p = true) :
    p ≠ .char '\\' ∧ p.endsLine = false := by
  cases p with
  | half q => exact ⟨by simp, rfl⟩
  | char c =>
    rw [isSpecial, Bool.or_eq_true, not_or, beq_iff_eq, Bool.not_eq_true] at h
    exact ⟨fun hc => h.1 (Point.char.inj hc), h.2⟩

/-- What is read behind an element is a spelling, so that all of it is one. -/
theorem Element.exists_spelling {e rest value : Text} {p : Point} (h : Element e p)
    (hrest : ∀ v, decodeBody rest = some v → ∃ body, rest = body ++ [.char '"'] ∧ Spelling body v)
    (hread : (decodeBody rest).map (p :: ·) = some value) :
    ∃ body, e ++ rest = body ++ [.char '"'] ∧ Spelling body value := by
  obtain ⟨v, hv, rfl⟩ := Option.map_eq_some_iff.mp hread
  obtain ⟨body, hbody, hspelling⟩ := hrest v hv
  exact ⟨e ++ body, by rw [hbody, List.append_assoc], .cons h hspelling⟩

/-- **What is read is a spelling**, with the closing quote behind it. -/
theorem exists_spelling_of_decodeBody {t value : Text} (h : decodeBody t = some value) :
    ∃ body, t = body ++ [.char '"'] ∧ Spelling body value := by
  fun_induction decodeBody t generalizing value with
  | case1 => exact absurd h (by simp)
  | case2 rest hempty =>
    rw [Option.some.injEq] at h
    rw [List.isEmpty_iff.mp hempty, ← h]
    exact ⟨[], rfl, .nil⟩
  | case3 rest hempty => exact absurd h (by simp)
  | case4 a b c d rest n hnumber ih =>
    exact (Element.escape (.number hnumber)).exists_spelling (fun v hv => ih hv) h
  | case5 a b c d rest hnumber => exact absurd h (by simp)
  | case6 letter rest hu c hletter ih =>
    exact (Element.escape (.letter hletter)).exists_spelling (fun v hv => ih hv) h
  | case7 letter rest hu hletter => exact absurd h (by simp)
  | case8 p rest hquote hu hletter hspecial => exact absurd h (by simp)
  | case9 p rest hquote hu hletter hspecial ih =>
    obtain ⟨hbackslash, hends⟩ := plain_of_not_special hspecial
    exact (Element.plain hquote hbackslash hends).exists_spelling (fun v hv => ih hv) h

/-- **The reader accepts exactly the literals of the grammar**: spellings between two quotes. -/
theorem decode_eq_some_iff {t value : Text} :
    decode t = some value ↔
      ∃ body, t = .char '"' :: (body ++ [.char '"']) ∧ Spelling body value := by
  constructor
  · intro h
    unfold decode at h
    split at h
    · obtain ⟨body, rfl, hspelling⟩ := exists_spelling_of_decodeBody h
      exact ⟨body, rfl, hspelling⟩
    · exact absurd h (by simp)
  · rintro ⟨body, rfl, hspelling⟩
    rw [decode]
    exact hspelling.decodeBody_eq

/-- A spelling stands for one text only. -/
theorem Spelling.unique {body value other : Text} (h : Spelling body value)
    (h' : Spelling body other) : other = value := by
  have hread := h'.decodeBody_eq
  rw [h.decodeBody_eq, Option.some.injEq] at hread
  exact hread.symm

/-! ### Every text has a spelling -/

/-- Each of the ways in which a code point is written is an element. -/
theorem Written.element {p : Point} {t : Text} (h : Written p t) : Element t p := by
  cases h with
  | letter hread _ _ => exact .escape (.letter hread)
  | @number c hlt =>
    rw [← Point.ofUnit_toNat c]
    exact .escape (.number (hexNumber?_hex4 hlt))
  | plain hquote hbackslash hends =>
    exact .plain (fun hc => hquote (Point.char.inj hc)) (fun hc => hbackslash (Point.char.inj hc))
      hends
  | half q => exact .plain (by simp) (by simp) rfl

/-- **Every text is written as a spelling of itself.** -/
theorem spelling_encodeBody (value : Text) : Spelling (encodeBody value) value := by
  induction value with
  | nil => exact .nil
  | cons p rest ih => exact .cons (written_encodePoint p).element ih

/-! ### What the backslashes in front of a code point say -/

/-- How many backslashes a text ends with. -/
def backslashesAtEnd (t : Text) : Nat :=
  (t.reverse.takeWhile (· == .char '\\')).length

/-- The backslashes at the end go on into the text in front of them only if there is nothing else. -/
theorem backslashesAtEnd_append (s t : Text) :
    backslashesAtEnd (s ++ t) =
      if backslashesAtEnd t = t.length then t.length + backslashesAtEnd s
      else backslashesAtEnd t := by
  unfold backslashesAtEnd
  rw [List.reverse_append, List.takeWhile_append, List.length_reverse]
  split
  · rw [List.length_append, List.length_reverse]
  · rfl

theorem backslashesAtEnd_concat {p : Point} (hp : p ≠ .char '\\') (t : Text) :
    backslashesAtEnd (t ++ [p]) = 0 := by
  rw [backslashesAtEnd, List.reverse_append, List.reverse_singleton, List.singleton_append,
    List.takeWhile_cons_of_neg (by simpa using hp), List.length_nil]

/-- What is read as a number has digits only. -/
theorem exists_hexValue?_of_mem {digits : List Char} {n : Nat} (h : hexNumber? digits = some n) :
    ∀ c ∈ digits, ∃ v, hexValue? c = some v := by
  obtain ⟨values, hvalues, -⟩ := Option.map_eq_some_iff.mp h
  clear h
  induction digits generalizing values with
  | nil => exact List.forall_mem_nil _
  | cons c rest ih =>
    rw [List.mapM_cons] at hvalues
    obtain ⟨v, hv, hrest⟩ := Option.bind_eq_some_iff.mp hvalues
    obtain ⟨others, hothers, -⟩ := Option.bind_eq_some_iff.mp hrest
    exact List.forall_mem_cons.mpr ⟨⟨v, hv⟩, ih others hothers⟩

/-- A quote or a backslash inside an element stands right behind the backslash that begins it. -/
theorem Element.eq_of_inner {e before after : Text} {p q : Point} (h : Element e p)
    (he : e = before ++ q :: after) (hbefore : before ≠ []) (hq : q = .char '"' ∨ q = .char '\\') :
    before = [.char '\\'] := by
  cases before with
  | nil => exact absurd rfl hbefore
  | cons first before =>
    cases h with
    | plain _ _ _ =>
      have hlength := congrArg List.length he
      simp at hlength
    | escape hescape =>
      rw [List.cons_append, List.cons.injEq] at he
      rw [← he.1]
      cases hescape with
      | letter hletter =>
        cases before with
        | nil => rfl
        | cons second before =>
          have hlength := congrArg List.length he.2
          simp at hlength
      | @number a b c d n hnumber =>
        have hmem : q ∈ ofChars ['u', a, b, c, d] := by
          rw [he.2]
          exact List.mem_append_right before List.mem_cons_self
        obtain ⟨digit, hdigit, rfl⟩ := List.mem_map.mp hmem
        exfalso
        rw [Point.char.injEq, Point.char.injEq] at hq
        rcases List.mem_cons.mp hdigit with rfl | hdigit
        · revert hq
          decide
        · obtain ⟨v, hv⟩ := exists_hexValue?_of_mem hnumber digit hdigit
          rcases hq with rfl | rfl
          · exact absurd hv (by simp [hexValue?])
          · exact absurd hv (by simp [hexValue?])

/-- An element ends with no backslash, or with the two of an escaped one. -/
theorem Element.backslashesAtEnd_even {e : Text} {p : Point} (h : Element e p) :
    backslashesAtEnd e % 2 = 0 := by
  cases h with
  | plain _ hbackslash _ => rw [← List.nil_append [p], backslashesAtEnd_concat hbackslash]
  | escape hescape =>
    cases hescape with
    | @letter l c hletter =>
      by_cases hl : l = '\\'
      · rw [hl]
        rfl
      · have hne : Point.char l ≠ .char '\\' := fun heq => hl (Point.char.inj heq)
        show backslashesAtEnd ([.char '\\'] ++ [.char l]) % 2 = 0
        rw [backslashesAtEnd_concat hne]
    | @number a b c d n hnumber =>
      have hne : Point.char d ≠ .char '\\' := by
        intro heq
        obtain ⟨v, hv⟩ := exists_hexValue?_of_mem hnumber d (by simp)
        rw [Point.char.inj heq] at hv
        exact absurd hv (by simp [hexValue?])
      show backslashesAtEnd (ofChars ['\\', 'u', a, b, c] ++ [.char d]) % 2 = 0
      rw [backslashesAtEnd_concat hne]

/-- An element in front does not change which code points are escaped. -/
theorem Element.backslashesAtEnd_append {e : Text} {p : Point} (h : Element e p) (t : Text) :
    backslashesAtEnd (e ++ t) % 2 = backslashesAtEnd t % 2 := by
  have heven := h.backslashesAtEnd_even
  rw [StringLiteral.backslashesAtEnd_append]
  split
  · omega
  · rfl

/-- **A reader that comes to a quote or a backslash behind an even number of backslashes** stands at
the beginning of an element. -/
theorem Spelling.exists_element {body value : Text} (h : Spelling body value) :
    ∀ {before after : Text} {q : Point}, body = before ++ q :: after →
      q = .char '"' ∨ q = .char '\\' → backslashesAtEnd before % 2 = 0 →
      ∃ e p rest, Element e p ∧ q :: after = e ++ rest := by
  induction h with
  | nil =>
    intro before after q hbody
    exact absurd hbody (by simp)
  | @cons e rest value p helement hrest ih =>
    intro before after q hbody hq heven
    rcases List.append_eq_append_iff.mp hbody with ⟨mid, hbefore, hmid⟩ | ⟨mid, he, hmid⟩
    · -- behind the first element
      rw [hbefore, helement.backslashesAtEnd_append] at heven
      exact ih hmid hq heven
    · cases mid with
      | nil =>
        have hrest' : rest = [] ++ q :: after := hmid.symm
        exact ih hrest' hq rfl
      | cons first mid =>
        rw [List.cons_append, List.cons.injEq] at hmid
        obtain ⟨rfl, hafter⟩ := hmid
        by_cases hbefore : before = []
        · refine ⟨e, p, rest, helement, ?_⟩
          rw [he, hbefore, hafter]
          rfl
        · rw [helement.eq_of_inner he hbefore hq] at heven
          exact absurd heven (by decide)

/-- Every quote in a spelling is escaped. -/
theorem Spelling.quote_escaped {body value before after : Text} (h : Spelling body value)
    (hbody : body = before ++ .char '"' :: after) : backslashesAtEnd before % 2 = 1 := by
  rcases Nat.mod_two_eq_zero_or_one (backslashesAtEnd before) with heven | hodd
  · obtain ⟨e, p, rest, helement, heq⟩ := h.exists_element hbody (.inl rfl) heven
    -- no element begins with a quote
    cases helement with
    | escape hescape =>
      rw [List.cons_append, List.cons.injEq] at heq
      exact absurd heq.1 (by decide)
    | plain hquote _ _ =>
      rw [List.cons_append, List.cons.injEq] at heq
      exact absurd heq.1.symm hquote
  · exact hodd

/-- Every backslash in a spelling that is not escaped begins a valid escape. -/
theorem Spelling.escape_follows {body value before after : Text} (h : Spelling body value)
    (hbody : body = before ++ .char '\\' :: after) (heven : backslashesAtEnd before % 2 = 0) :
    ∃ tail p rest, Escape tail p ∧ after = tail ++ rest := by
  obtain ⟨e, p, rest, helement, heq⟩ := h.exists_element hbody (.inr rfl) heven
  cases helement with
  | @escape tail p hescape =>
    rw [List.cons_append, List.cons.injEq] at heq
    exact ⟨tail, p, rest, hescape, heq.2⟩
  | plain _ hbackslash _ =>
    rw [List.cons_append, List.cons.injEq] at heq
    exact absurd heq.1.symm hbackslash

/-! ### The literal of a text -/

/-- **The literal of a text is a regular literal, and it stands for this text.**

* Between its two quotes no quote is without a backslash of its own and no line ends, and each
  backslash that is not escaped is followed by the letter of a short escape, or by `u` and four
  hexadecimal digits.
* By the grammar of C# it stands for the text, and for no other one; reading it from the left gives
  the text back, and reading accepts exactly the literals of the grammar.
* Different texts have different literals. -/
theorem encode_regular :
    (∀ value : Text, ∃ body, encode value = .char '"' :: (body ++ [.char '"']) ∧
      Unbroken body ∧
      (∀ before after, body = before ++ .char '"' :: after → backslashesAtEnd before % 2 = 1) ∧
      (∀ before after, body = before ++ .char '\\' :: after → backslashesAtEnd before % 2 = 0 →
        ∃ tail p rest, Escape tail p ∧ after = tail ++ rest) ∧
      Spelling body value ∧ (∀ other, Spelling body other → other = value) ∧
      decode (encode value) = some value) ∧
    (∀ t value, decode t = some value ↔
      ∃ body, t = .char '"' :: (body ++ [.char '"']) ∧ Spelling body value) ∧
    Function.Injective encode := by
  refine ⟨fun value => ?_, fun t value => decode_eq_some_iff, fun value other h => ?_⟩
  · have hspelling := spelling_encodeBody value
    exact ⟨encodeBody value, encode_eq value, unbroken_encodeBody value,
      fun before after hbody => hspelling.quote_escaped hbody,
      fun before after hbody heven => hspelling.escape_follows hbody heven,
      hspelling, fun other hother => hspelling.unique hother, decode_encode value⟩
  · have hread := decode_encode other
    rw [← h, decode_encode, Option.some.injEq] at hread
    exact hread

/-- Escapes of all lengths next to characters that could be taken for a part of them: NUL in front
of a digit, U+0001 in front of a hexadecimal digit, and a backslash in front of a quote and of `u`. -/
def crowdedText : Text :=
  ofChars ['\x00', '1', '\x01', 'a', '\\', '"', '\\', 'u', '\u2028']

/-- What the literal of this text has between its quotes. -/
def crowdedBody : Text :=
  ofChars ("\\01\\u0001a\\\\\\\"\\\\u\\u2028".toList)

/-- All of it is read back, and the one quote in it is escaped. -/
theorem encode_regular_crowded :
    encode crowdedText = .char '"' :: (crowdedBody ++ [.char '"']) ∧
      decode (encode crowdedText) = some crowdedText ∧
      ∃ before after, crowdedBody = before ++ .char '"' :: after ∧
        backslashesAtEnd before % 2 = 1 := by
  obtain ⟨body, hbody, -, hquotes, -, -, -, hread⟩ := encode_regular.1 crowdedText
  have hencode : encode crowdedText = .char '"' :: (crowdedBody ++ [.char '"']) := by decide
  have hsame : body = crowdedBody := by
    rw [hencode, List.cons.injEq] at hbody
    exact (List.append_cancel_right hbody.2).symm
  have hsplit : crowdedBody = crowdedBody.take 13 ++ .char '"' :: crowdedBody.drop 14 := by decide
  exact ⟨hencode, hread, crowdedBody.take 13, crowdedBody.drop 14, hsplit,
    hquotes _ _ (hsame.trans hsplit)⟩

end StringLiteral

end Phrasebook.CSharp
