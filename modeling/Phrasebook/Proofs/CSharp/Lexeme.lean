import Phrasebook.Proofs.CSharp.Literal
import Phrasebook.Proofs.CSharp.Word

/-!
# Reading C#

A reader for the part of C# that a generated method is written in: words, regular literals, single
signs and spaces.  Anything else is refused, so a text that is read means to C# what is read here:

* `Lexeme`, `Mode`, `step`, `scan` — the reader goes from left to right, one code point at a time;
* `scan_append` — it can stop anywhere and go on;
* `Spells`, `SpellsOpen` — a text with its lexemes, when it ends between two lexemes, and when it
  may end in a word;
* `spellsOpen_word`, `spellsOpen_verbatim`, `spells_encode`, `spellsOpen_separated` — words,
  literals and lists.
-/

namespace Phrasebook.CSharp

open Phrasebook.Text

/-- What C# reads as one. -/
inductive Lexeme where
  /-- A reserved word. -/
  | keyword (word : String)
  /-- An identifier as it is written, with `@` if it has one. -/
  | identifier (written : String)
  /-- A regular literal, which stands for a text. -/
  | literal (value : Text)
  /-- A sign. -/
  | sign (c : Char)
  deriving DecidableEq, Repr

/-- What the reader is in. -/
inductive Mode where
  | between
  /-- In a word, of which this much has been read. -/
  | word (escaped : Bool) (read : List Char)
  /-- In a literal, perhaps behind a backslash, of which this much has been read. -/
  | literal (escaped : Bool) (read : Text)
  deriving DecidableEq, Repr

/-- The signs that are read. -/
def signs : List Char :=
  ['(', ')', '\x7b', '\x7d', '[', ']', '<', '>', '=', ',', ';', '?', '.']

/-- A word that has been read.  After `@` it is an identifier even if it is reserved. -/
def wordLexeme (escaped : Bool) (read : List Char) : Lexeme :=
  if escaped then .identifier ("@" ++ String.ofList read)
  else if isKeyword (String.ofList read) then .keyword (String.ofList read)
  else .identifier (String.ofList read)

/-- Reads a character that stands behind a lexeme or at the start. -/
def enter (c : Char) : Option (List Lexeme × Mode) :=
  if c = ' ' then some ([], .between)
  else if c = '"' then some ([], .literal false [])
  else if c = '@' then some ([], .word true [])
  else if isWordStart c then some ([], .word false [c])
  else if signs.contains c then some ([.sign c], .between)
  else none

/-- Reads one code point, and gives the lexemes that it completes. -/
def step : Mode → Point → Option (List Lexeme × Mode)
  | .between, .char c => enter c
  | .between, .half _ => none
  | .word escaped [], .char c =>
    if isWordStart c then some ([], .word escaped [c]) else none
  | .word escaped (d :: rest), .char c =>
    if isWordPart c then some ([], .word escaped (d :: rest ++ [c]))
    else (enter c).map fun r => (wordLexeme escaped (d :: rest) :: r.1, r.2)
  | .word _ _, .half _ => none
  | .literal true read, p => some ([], .literal false (read ++ [p]))
  | .literal false read, p =>
    if p = .char '"' then
      (StringLiteral.decodeBody (read ++ [p])).map fun value => ([.literal value], .between)
    else some ([], .literal (p == .char '\\') (read ++ [p]))

/-- Reads a text, and gives the lexemes that it completes. -/
def scan : Mode → Text → Option (List Lexeme × Mode)
  | mode, [] => some ([], mode)
  | mode, p :: rest =>
    (step mode p).bind fun r => (scan r.2 rest).map fun q => (r.1 ++ q.1, q.2)

/-- A code point that completes no lexeme changes the mode only. -/
theorem scan_of_step {mode next : Mode} {p : Point} (h : step mode p = some ([], next))
    (rest : Text) : scan mode (p :: rest) = scan next rest := by
  rw [scan, h, Option.bind_some]
  cases scan next rest with
  | none => rfl
  | some q => rfl

/-- The reader can stop anywhere and go on. -/
theorem scan_append (mode : Mode) (s t : Text) :
    scan mode (s ++ t) =
      (scan mode s).bind fun r => (scan r.2 t).map fun q => (r.1 ++ q.1, q.2) := by
  induction s generalizing mode with
  | nil =>
    rw [List.nil_append, scan, Option.bind_some]
    cases scan mode t with
    | none => rfl
    | some q => rfl
  | cons p rest ih =>
    rw [List.cons_append, scan, scan]
    cases step mode p with
    | none => rfl
    | some r =>
      rw [Option.bind_some, Option.bind_some, ih]
      cases scan r.2 rest with
      | none => rfl
      | some q =>
        rw [Option.bind_some, Option.map_some, Option.bind_some, Option.map_map]
        congr 1
        funext last
        show (r.1 ++ (q.1 ++ last.1), last.2) = ((r.1 ++ q.1) ++ last.1, last.2)
        rw [List.append_assoc]

/-- The lexemes of a text that ends behind a sign, a literal or a space. -/
def lexemes? (t : Text) : Option (List Lexeme) :=
  match scan .between t with
  | some (lexemes, .between) => some lexemes
  | _ => none

/-! ### Texts with their lexemes -/

/-- The text has these lexemes, and nothing behind it can change the last one. -/
def Spells (t : Text) (lexemes : List Lexeme) : Prop :=
  scan .between t = some (lexemes, .between)

/-- The text has these lexemes in front of a text that does not go on with a word. -/
def SpellsOpen (t : Text) (lexemes : List Lexeme) : Prop :=
  ∀ (c : Char) (rest : Text) (others : List Lexeme), isWordPart c = false →
    Spells (.char c :: rest) others → Spells (t ++ .char c :: rest) (lexemes ++ others)

theorem Spells.lexemes?_eq {t : Text} {l : List Lexeme} (h : Spells t l) :
    lexemes? t = some l := by
  rw [Spells] at h
  rw [lexemes?, h]

/-- For a string that is written out, reading it decides. -/
theorem spells_ofList {s : List Char} {lexemes : List Lexeme}
    (h : scan .between (ofChars s) = some (lexemes, .between)) :
    Spells (ofString (String.ofList s)) lexemes := by
  rw [Spells, ofString, String.toList_ofList]
  exact h

theorem Spells.append {s t : Text} {l m : List Lexeme} (hs : Spells s l) (ht : Spells t m) :
    Spells (s ++ t) (l ++ m) := by
  rw [Spells] at hs ht ⊢
  rw [scan_append, hs, Option.bind_some, ht]
  rfl

theorem spellsOpen_nil : SpellsOpen [] [] := by
  intro c rest others _ hrest
  exact hrest

theorem Spells.append_open {s t : Text} {l m : List Lexeme} (hs : Spells s l)
    (ht : SpellsOpen t m) : SpellsOpen (s ++ t) (l ++ m) := by
  intro c rest others hc hrest
  rw [List.append_assoc, List.append_assoc]
  exact hs.append (ht c rest others hc hrest)

/-- What follows a word begins with a character that is in no word. -/
theorem SpellsOpen.append {s : Text} {t : List Char} {l m : List Lexeme} (hs : SpellsOpen s l)
    (hhead : t.head?.any delimiters.contains = true) (ht : Spells (ofString (String.ofList t)) m) :
    Spells (s ++ ofString (String.ofList t)) (l ++ m) := by
  rw [ofString, String.toList_ofList] at ht ⊢
  cases t with
  | nil => exact absurd hhead Bool.false_ne_true
  | cons c rest =>
    have hc : c ∈ delimiters := List.contains_iff_mem.mp hhead
    exact hs c (ofChars rest) m (isWordPart_delimiter c hc) ht

/-! ### Words -/

/-- A word begins with a character that begins nothing else. -/
theorem enter_of_isWordStart {c : Char} (h : isWordStart c = true) :
    enter c = some ([], .word false [c]) := by
  have hne : ∀ d ∈ delimiters, c ≠ d := by
    intro d hd heq
    have hpart := isWordPart_of_isWordStart h
    rw [heq, isWordPart_delimiter d hd] at hpart
    exact absurd hpart Bool.false_ne_true
  rw [enter, if_neg (hne ' ' (by decide)), if_neg (hne '"' (by decide)),
    if_neg (hne '@' (by decide)), if_pos h]

/-- A word goes on as long as there are word characters. -/
theorem scan_word (escaped : Bool) (c : Char) (w : List Char) :
    ∀ read, (∀ d ∈ w, isWordPart d = true) →
      scan (.word escaped (c :: read)) (ofChars w) = some ([], .word escaped (c :: read ++ w)) := by
  induction w with
  | nil =>
    intro read _
    rw [List.append_nil]
    rfl
  | cons d rest ih =>
    intro read hw
    rw [List.forall_mem_cons] at hw
    have hstep : step (.word escaped (c :: read)) (.char d) =
        some ([], .word escaped (c :: (read ++ [d]))) := by
      rw [step, if_pos hw.1, List.cons_append]
    show scan (.word escaped (c :: read)) (.char d :: ofChars rest) = _
    rw [scan_of_step hstep, ih _ hw.2, List.cons_append, List.append_assoc, List.singleton_append,
      List.cons_append]

/-- A character that is in no word ends a word. -/
theorem scan_word_end (escaped : Bool) (c : Char) (read : List Char) {d : Char}
    (hd : isWordPart d = false) (rest : Text) {others : List Lexeme}
    (h : Spells (.char d :: rest) others) :
    scan (.word escaped (c :: read)) (.char d :: rest) =
      some (wordLexeme escaped (c :: read) :: others, .between) := by
  have hstep : step (.word escaped (c :: read)) (.char d) =
      (step .between (.char d)).map fun r => (wordLexeme escaped (c :: read) :: r.1, r.2) := by
    have henter : step .between (.char d) = enter d := rfl
    rw [henter, step, if_neg (by rw [hd]; exact Bool.false_ne_true)]
  rw [Spells, scan] at h
  rw [scan, hstep]
  cases hr : step .between (.char d) with
  | none =>
    rw [hr] at h
    exact absurd h (by simp)
  | some r =>
    rw [hr, Option.bind_some] at h
    rw [Option.map_some, Option.bind_some]
    cases hq : scan r.2 rest with
    | none =>
      rw [hq] at h
      exact absurd h (by simp)
    | some q =>
      rw [hq, Option.map_some, Option.some.injEq, Prod.mk.injEq] at h
      rw [Option.map_some, List.cons_append, h.1, h.2]

/-- A word is read up to its end, behind `@` or at its start. -/
theorem scan_whole_word (escaped : Bool) {d : Char} {w : List Char}
    (h : ∀ c ∈ w, isWordPart c = true) {c : Char} (hc : isWordPart c = false) {rest : Text}
    {others : List Lexeme} (hrest : Spells (.char c :: rest) others) :
    scan (.word escaped [d]) (ofChars w ++ .char c :: rest) =
      some (wordLexeme escaped (d :: w) :: others, .between) := by
  rw [scan_append, scan_word escaped d w [] h, Option.bind_some, List.singleton_append,
    scan_word_end escaped d w hc rest hrest]
  rfl

/-- A word is read as one lexeme. -/
theorem spellsOpen_word {name : String} (h : isWord name.toList = true) :
    SpellsOpen (ofString name) [wordLexeme false name.toList] := by
  intro c rest others hc hrest
  cases hname : name.toList with
  | nil =>
    rw [hname] at h
    exact absurd h Bool.false_ne_true
  | cons d w =>
    rw [hname, isWord, Bool.and_eq_true] at h
    have hchars : ofString name = .char d :: ofChars w := by
      rw [ofString, hname]
      rfl
    have hstart : step .between (.char d) = some ([], .word false [d]) :=
      enter_of_isWordStart h.1
    rw [Spells, hchars, List.cons_append, scan_of_step hstart,
      scan_whole_word false (List.all_eq_true.mp h.2) hc hrest]
    rfl

/-- A word that is not reserved is read as it is written. -/
theorem spellsOpen_identifier {name : String} (h : isWord name.toList = true)
    (hfree : isKeyword name = false) : SpellsOpen (ofString name) [.identifier name] := by
  have hword := spellsOpen_word h
  rwa [wordLexeme, if_neg Bool.false_ne_true, String.ofList_toList, hfree,
    if_neg Bool.false_ne_true] at hword

/-- **A word is read as an identifier** when it is written with `@` if it is reserved. -/
theorem spellsOpen_verbatim {name : String} (h : isWord name.toList = true) :
    SpellsOpen (ofString (verbatim name)) [.identifier (verbatim name)] := by
  rw [verbatim]
  split
  · -- the word is reserved: it is read behind `@`
    intro c rest others hc hrest
    cases hname : name.toList with
    | nil =>
      rw [hname] at h
      exact absurd h Bool.false_ne_true
    | cons d w =>
      rw [hname, isWord, Bool.and_eq_true] at h
      have hat : step .between (.char '@') = some ([], .word true []) := rfl
      have hchars : ofString ("@" ++ name) = .char '@' :: .char d :: ofChars w := by
        rw [ofString, String.toList_append, hname]
        rfl
      have hstart : step (.word true []) (.char d) = some ([], .word true [d]) := by
        rw [step, if_pos h.1]
      rw [Spells, hchars, List.cons_append, List.cons_append, scan_of_step hat,
        scan_of_step hstart, scan_whole_word true (List.all_eq_true.mp h.2) hc hrest, wordLexeme,
        if_pos rfl, ← hname, String.ofList_toList]
      rfl
  · rename_i hreserved
    rw [Bool.not_eq_true] at hreserved
    exact spellsOpen_identifier h hreserved

/-! ### Literals -/

/-- A code point that is no quote does not end a literal. -/
theorem step_literal {p : Point} (h : p ≠ .char '"') (read : Text) :
    step (.literal false read) p = some ([], .literal (p == .char '\\') (read ++ [p])) := by
  rw [step, if_neg h]

theorem scan_literal_plain {t : Text} (h : ∀ p ∈ t, p ≠ .char '"' ∧ p ≠ .char '\\') :
    ∀ read, scan (.literal false read) t = some ([], .literal false (read ++ t)) := by
  induction t with
  | nil =>
    intro read
    rw [List.append_nil]
    rfl
  | cons p rest ih =>
    intro read
    rw [List.forall_mem_cons] at h
    have hstep := step_literal h.1.1 read
    rw [beq_false_of_ne h.1.2] at hstep
    rw [scan_of_step hstep, ih h.2, List.append_assoc, List.singleton_append]

/-- A written code point does not end a literal. -/
theorem scan_written {p : Point} {t : Text} (h : StringLiteral.Written p t) (read : Text) :
    scan (.literal false read) t = some ([], .literal false (read ++ t)) := by
  have hbackslash := step_literal (p := .char '\\') (by decide) read
  cases h with
  | letter _ _ _ =>
    rw [scan_of_step hbackslash]
    show some ([], Mode.literal false ((read ++ [_]) ++ [_])) = _
    rw [List.append_assoc, List.singleton_append]
  | @number c _ =>
    have hdigits : ∀ p ∈ ofChars (hex4 c.toNat), p ≠ .char '"' ∧ p ≠ .char '\\' := by
      intro p hp
      obtain ⟨d, hd, rfl⟩ := List.mem_map.mp hp
      obtain ⟨hq, hb, -⟩ := StringLiteral.hex4_plain d hd
      exact ⟨fun heq => hq (Point.char.inj heq), fun heq => hb (Point.char.inj heq)⟩
    have hu : step (.literal true (read ++ [.char '\\'])) (.char 'u') =
        some ([], .literal false (read ++ [.char '\\'] ++ [.char 'u'])) := rfl
    show scan _ (.char '\\' :: .char 'u' :: ofChars (hex4 c.toNat)) = _
    rw [scan_of_step hbackslash]
    show scan (.literal true (read ++ [.char '\\'])) _ = _
    rw [scan_of_step hu, scan_literal_plain hdigits]
    simp only [List.append_assoc, List.singleton_append]
    rfl
  | plain hq hb _ =>
    apply scan_literal_plain
    intro p hp
    rw [List.mem_singleton.mp hp]
    exact ⟨fun heq => hq (Point.char.inj heq), fun heq => hb (Point.char.inj heq)⟩
  | half h => rfl

theorem scan_encodeBody (value : Text) :
    ∀ read, scan (.literal false read) (StringLiteral.encodeBody value) =
      some ([], .literal false (read ++ StringLiteral.encodeBody value)) := by
  induction value with
  | nil =>
    intro read
    rw [StringLiteral.encodeBody, List.flatMap_nil, List.append_nil]
    rfl
  | cons p rest ih =>
    intro read
    show scan (.literal false read)
      (StringLiteral.encodePoint p ++ StringLiteral.encodeBody rest) = _
    rw [scan_append, scan_written (StringLiteral.written_encodePoint p), Option.bind_some, ih,
      List.append_assoc]
    rfl

/-- **A literal is read as the text that it was written for.** -/
theorem spells_encode (value : Text) : Spells (StringLiteral.encode value) [.literal value] := by
  have hopen : step .between (.char '"') = some ([], .literal false []) := rfl
  rw [Spells, StringLiteral.encode_eq, scan_of_step hopen, scan_append, scan_encodeBody,
    Option.bind_some, List.nil_append]
  have hclose : step (.literal false (StringLiteral.encodeBody value)) (.char '"') =
      some ([.literal value], .between) := by
    rw [step, if_pos rfl, StringLiteral.decodeBody_encodeBody]
    rfl
  rw [scan, hclose]
  rfl

/-! ### Lists -/

/-- A list is read item by item, with the lexemes of what is written between neighbours. -/
theorem spellsOpen_separated {between : List Char} {separators : List Lexeme}
    (hhead : between.head?.any delimiters.contains = true)
    (hbetween : Spells (ofString (String.ofList between)) separators) {α : Type} {items : List α}
    {text : α → Text} {lexemes : α → List Lexeme}
    (h : ∀ a ∈ items, SpellsOpen (text a) (lexemes a)) :
    SpellsOpen (joinTexts (ofString (String.ofList between)) (items.map text))
      (separators.intercalate (items.map lexemes)) := by
  induction items with
  | nil => exact spellsOpen_nil
  | cons a rest ih =>
    rw [List.forall_mem_cons] at h
    cases rest with
    | nil =>
      rw [List.map_singleton, List.map_singleton, joinTexts, List.intercalate_singleton,
        List.intercalate_singleton]
      exact h.1
    | cons b rest =>
      rw [List.map_cons, List.map_cons, List.map_cons, List.map_cons, joinTexts,
        List.intercalate_cons_cons, List.intercalate_cons_cons]
      exact (h.1.append hhead hbetween).append_open (ih h.2)

/-- **A list is read item by item**, with a comma between neighbours. -/
theorem spellsOpen_joinTexts {α : Type} {items : List α} {text : α → Text}
    {lexemes : α → List Lexeme} (h : ∀ a ∈ items, SpellsOpen (text a) (lexemes a)) :
    SpellsOpen (joinTexts ", " (items.map text))
      ([Lexeme.sign ','].intercalate (items.map lexemes)) :=
  spellsOpen_separated (by decide) (spells_ofList (by decide +kernel)) h

end Phrasebook.CSharp
