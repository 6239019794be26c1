import Phrasebook.Json5.StringBody
import Phrasebook.Text.Blank
import Phrasebook.Text.Digit
import Phrasebook.Text.Letter
import Phrasebook.Text.Mark

/-!
# Tokens of JSON5

* `Token` — punctuation, strings, numbers and names.
* `next` — the token that starts with a given character, or nothing for a blank or a comment.
* `next_length` — what follows a token is no longer than what follows its first character.
* `tokens` — the tokens of a text, up to the first character that starts none.
-/

namespace Phrasebook.Json5

open Phrasebook.Text

/-- A token.  A name is plain when it is written without escapes.  A number is oversized when it
is an integer with too many digits to be read. -/
inductive Token where
  | openBrace
  | closeBrace
  | openBracket
  | closeBracket
  | colon
  | comma
  | string (s : Text)
  | number (oversized : Bool)
  | name (text : Text) (plain : Bool)
  /-- A character that starts no token. -/
  | stray
  deriving DecidableEq, Repr

/-! ### Blanks and comments -/

/-- A character between two tokens. -/
def isGap (c : Char) : Bool :=
  c == '\t' || c == '\x0b' || c == '\x0c' || isTerminator c || c == '\ufeff' || isSpaceSeparator c

/-- What follows the end of a block comment. -/
def blockCommentEnd? : List Char → Option (List Char)
  | [] => none
  | '*' :: '/' :: rest => some rest
  | _ :: rest => blockCommentEnd? rest

/-- What follows a comment whose first slash has been read. -/
def commentEnd? : List Char → Option (List Char)
  | '/' :: rest => some (rest.dropWhile (!isTerminator ·))
  | '*' :: rest => blockCommentEnd? rest
  | _ => none

/-! ### Names -/

/-- A character that starts a name. -/
def isNameStart (c : Char) : Bool :=
  c == '$' || c == '_' || isLetter c || isLetterNumber c

/-- A character that goes on with a name. -/
def isNameChar (c : Char) : Bool :=
  isNameStart c || isCombiningMark c || isDecimalDigit c || isConnector c
    || c == '\u200c' || c == '\u200d'

/-- The code points with which a name goes on, whether none of them is escaped, and what follows
the name. -/
def nameBody : List Char → Option (Text × Bool × List Char)
  | [] => some ([], true, [])
  | '\\' :: 'u' :: a :: b :: c :: d :: rest =>
    match hexNumber? [a, b, c, d] with
    | some n => (nameBody rest).map fun p => (.ofUnit n :: p.1, false, p.2.2)
    | none => none
  | c :: rest =>
    if c = '\\' then none
    else if isNameChar c then (nameBody rest).map fun p => (.char c :: p.1, p.2.1, p.2.2)
    else some ([], true, c :: rest)

/-- The name that starts with a character. -/
def name? (c : Char) (rest : List Char) : Option (Token × List Char) :=
  if isNameStart c then
    (nameBody rest).map fun p => (.name (.char c :: p.1) p.2.1, p.2.2)
  else if c = '\\' then
    match rest with
    | 'u' :: a :: b :: c :: d :: rest =>
      match hexNumber? [a, b, c, d] with
      | some n => (nameBody rest).map fun p => (.name (.ofUnit n :: p.1) false, p.2.2)
      | none => none
    | _ => none
  else none

/-! ### Numbers -/

/-- What follows an ASCII digit and the digits after it. -/
def digitsEnd (s : List Char) : List Char :=
  s.dropWhile Char.isDigit

/-- The most digits that an integer may have. -/
def maxDigits : Nat := 4300

/-- Whether the digits that a number without a sign starts with are an integer with too many of
them.  With a point or an exponent it is no integer. -/
def isOversized (s : List Char) : Bool :=
  (s.takeWhile Char.isDigit).length > maxDigits &&
    match digitsEnd s with
    | c :: _ => !(c == '.' || c == 'e' || c == 'E')
    | [] => true

/-- What follows a sign, if there is one. -/
def signEnd : List Char → List Char
  | [] => []
  | c :: rest => if c = '+' || c = '-' then rest else c :: rest

/-- What follows the exponent of a number, if there is one; `e` without digits is refused. -/
def exponentEnd? : List Char → Option (List Char)
  | [] => some []
  | c :: rest =>
    if c = 'e' || c = 'E' then
      if startsWithDigit (signEnd rest) then some (digitsEnd (signEnd rest)) else none
    else some (c :: rest)

/-- What follows the fraction and the exponent of a number. -/
def fractionEnd? : List Char → Option (List Char)
  | '.' :: rest => exponentEnd? (digitsEnd rest)
  | rest => exponentEnd? rest

/-- What follows a number without a sign that starts with a character. -/
def magnitudeEnd? (c : Char) (rest : List Char) : Option (List Char) :=
  if c = '.' then
    if startsWithDigit rest then exponentEnd? (digitsEnd rest) else none
  else if c = '0' then
    match rest with
    | 'x' :: d :: r =>
      if (hexValue? d).isSome then some (r.dropWhile fun c => (hexValue? c).isSome) else none
    | 'X' :: d :: r =>
      if (hexValue? d).isSome then some (r.dropWhile fun c => (hexValue? c).isSome) else none
    | r => if startsWithDigit r then none else fractionEnd? r
  else if c.isDigit then fractionEnd? (digitsEnd rest)
  else none

/-- What follows a number whose sign has been read.  The two names of numbers may have a sign. -/
def signedEnd? : List Char → Option (List Char)
  | [] => none
  | c :: rest =>
    match name? c rest with
    | some (.name text plain, r) =>
      if plain && (text == ("Infinity" : Text) || text == ("NaN" : Text)) then some r else none
    | _ => magnitudeEnd? c rest

/-! ### Tokens -/

/-- The token that a character is by itself. -/
def punctuation? (c : Char) : Option Token :=
  if c = '\x7b' then some .openBrace
  else if c = '\x7d' then some .closeBrace
  else if c = '[' then some .openBracket
  else if c = ']' then some .closeBracket
  else if c = ':' then some .colon
  else if c = ',' then some .comma
  else none

/-- The string, number or name that starts with a character, and what follows it. -/
def longToken? (c : Char) (rest : List Char) : Option (Token × List Char) :=
  if c = '"' || c = '\x27' then
    (stringBody c rest).map fun p => (.string p.1, p.2)
  else if c = '+' || c = '-' then (signedEnd? rest).map (.number (isOversized rest), ·)
  else if c.isDigit || c = '.' then
    (magnitudeEnd? c rest).map (.number (isOversized (c :: rest)), ·)
  else name? c rest

/-- The token that starts with a character, or nothing for a blank or a comment, and what
follows. -/
def next (c : Char) (rest : List Char) : Option (Option Token × List Char) :=
  if isGap c then some (none, rest)
  else if c = '/' then (commentEnd? rest).map (none, ·)
  else
    match punctuation? c with
    | some t => some (some t, rest)
    | none => (longToken? c rest).map fun p => (some p.1, p.2)

/-! ### Lengths of what follows -/

theorem blockCommentEnd?_length (s : List Char) :
    ∀ r ∈ blockCommentEnd? s, r.length ≤ s.length := by
  fun_induction blockCommentEnd? s with
  | case1 => simp
  | case2 rest => simp; omega
  | case3 c rest _ ih =>
    intro r hr
    have := ih r hr
    simp only [List.length_cons]
    omega

theorem digitsEnd_length (s : List Char) : (digitsEnd s).length ≤ s.length :=
  (List.dropWhile_sublist _).length_le

theorem commentEnd?_length (s : List Char) :
    ∀ r ∈ commentEnd? s, r.length ≤ s.length := by
  intro r hr
  unfold commentEnd? at hr
  split at hr
  · simp only [Option.mem_def, Option.some.injEq] at hr
    subst hr
    simp only [List.length_cons]
    exact Nat.le_succ_of_le (List.dropWhile_sublist _).length_le
  · have := blockCommentEnd?_length _ r hr
    simp only [List.length_cons]
    omega
  · simp at hr

theorem nameBody_length (s : List Char) :
    ∀ p ∈ nameBody s, p.2.2.length ≤ s.length := by
  fun_induction nameBody s <;>
    simp_all only [Option.mem_def, Option.map_eq_some_iff, List.length_cons, reduceCtorEq,
      false_implies, implies_true, Option.some.injEq, forall_eq', forall_exists_index, and_imp,
      forall_apply_eq_imp_iff₂, Nat.le_refl, List.length_nil]
  all_goals
    intro p hp
    rename_i ih
    have := ih p hp
    omega

theorem name?_length (c : Char) (rest : List Char) :
    ∀ p ∈ name? c rest, p.2.length ≤ rest.length := by
  intro p hp
  unfold name? at hp
  split at hp
  · simp only [Option.mem_def, Option.map_eq_some_iff] at hp
    obtain ⟨q, hq, rfl⟩ := hp
    exact nameBody_length rest q hq
  · split at hp
    · split at hp
      · split at hp
        · simp only [Option.mem_def, Option.map_eq_some_iff] at hp
          obtain ⟨q, hq, rfl⟩ := hp
          have := nameBody_length _ q hq
          simp only [List.length_cons]
          omega
        · simp at hp
      · simp at hp
    · simp at hp

theorem signEnd_length (s : List Char) : (signEnd s).length ≤ s.length := by
  unfold signEnd
  split
  · simp
  · split
    · simp
    · simp

theorem exponentEnd?_length (s : List Char) :
    ∀ r ∈ exponentEnd? s, r.length ≤ s.length := by
  intro r hr
  unfold exponentEnd? at hr
  split at hr
  · simp_all
  · rename_i c rest
    split at hr
    · split at hr
      · simp only [Option.mem_def, Option.some.injEq] at hr
        subst hr
        have h1 := digitsEnd_length (signEnd rest)
        have h2 := signEnd_length rest
        simp only [List.length_cons]
        omega
      · simp at hr
    · simp_all

theorem fractionEnd?_length (s : List Char) :
    ∀ r ∈ fractionEnd? s, r.length ≤ s.length := by
  intro r hr
  unfold fractionEnd? at hr
  split at hr
  · have h1 := exponentEnd?_length _ r hr
    have h2 := digitsEnd_length ‹_›
    simp only [List.length_cons]
    omega
  · exact exponentEnd?_length _ r hr

theorem magnitudeEnd?_length (c : Char) (rest : List Char) :
    ∀ r ∈ magnitudeEnd? c rest, r.length ≤ rest.length := by
  intro r hr
  have digits := digitsEnd_length rest
  unfold magnitudeEnd? at hr
  split at hr
  · split at hr
    · exact Nat.le_trans (exponentEnd?_length _ r hr) digits
    · simp at hr
  · split at hr
    · split at hr
      · split at hr
        · simp only [Option.mem_def, Option.some.injEq] at hr
          subst hr
          simp only [List.length_cons]
          exact Nat.le_succ_of_le (Nat.le_succ_of_le (List.dropWhile_sublist _).length_le)
        · simp at hr
      · split at hr
        · simp only [Option.mem_def, Option.some.injEq] at hr
          subst hr
          simp only [List.length_cons]
          exact Nat.le_succ_of_le (Nat.le_succ_of_le (List.dropWhile_sublist _).length_le)
        · simp at hr
      · split at hr
        · simp at hr
        · exact fractionEnd?_length _ r hr
    · split at hr
      · exact Nat.le_trans (fractionEnd?_length _ r hr) digits
      · simp at hr

theorem signedEnd?_length (s : List Char) :
    ∀ r ∈ signedEnd? s, r.length ≤ s.length := by
  intro r hr
  unfold signedEnd? at hr
  split at hr
  · simp at hr
  · rename_i c rest
    split at hr
    · rename_i text plain r' hn
      split at hr
      · simp only [Option.mem_def, Option.some.injEq] at hr
        subst hr
        have := name?_length c rest _ hn
        simp only [List.length_cons]
        simp only at this
        omega
      · simp at hr
    · have := magnitudeEnd?_length c rest r hr
      simp only [List.length_cons]
      omega

theorem longToken?_length (c : Char) (rest : List Char) :
    ∀ p ∈ longToken? c rest, p.2.length ≤ rest.length := by
  intro p hp
  rw [Option.mem_def] at hp
  unfold longToken? at hp
  split at hp
  · obtain ⟨r, hr, rfl⟩ := Option.map_eq_some_iff.1 hp
    exact Nat.le_of_lt (stringBody_length _ _ r hr)
  · split at hp
    · obtain ⟨r, hr, rfl⟩ := Option.map_eq_some_iff.1 hp
      exact signedEnd?_length rest r hr
    · split at hp
      · obtain ⟨r, hr, rfl⟩ := Option.map_eq_some_iff.1 hp
        exact magnitudeEnd?_length c rest r hr
      · exact name?_length c rest p hp

/-- What follows a token is no longer than what follows its first character. -/
theorem next_length (c : Char) (rest : List Char) :
    ∀ p ∈ next c rest, p.2.length ≤ rest.length := by
  intro p hp
  rw [Option.mem_def] at hp
  unfold next at hp
  split at hp
  · cases hp
    exact Nat.le_refl _
  · split at hp
    · obtain ⟨r, hr, rfl⟩ := Option.map_eq_some_iff.1 hp
      exact commentEnd?_length rest r hr
    · split at hp
      · cases hp
        exact Nat.le_refl _
      · obtain ⟨r, hr, rfl⟩ := Option.map_eq_some_iff.1 hp
        exact longToken?_length c rest r hr

/-- The tokens of a text, without its blanks and comments.  At a character that starts no token
there is a stray one, and nothing is read after it. -/
def tokens : List Char → List Token
  | [] => []
  | c :: rest =>
    match _h : next c rest with
    | some (token, after) => token.toList ++ tokens after
    | none => [.stray]
termination_by s => s.length
decreasing_by
  have : after.length ≤ rest.length := next_length c rest _ (by assumption)
  simp only [List.length_cons]
  omega

end Phrasebook.Json5
