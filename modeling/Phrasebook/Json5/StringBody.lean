import Phrasebook.Text.Basic

/-!
# The inside of a JSON5 string

* `isTerminator` — the characters that end a line.
* `stringBody` — the code points of a string up to its closing quote, and what follows it.
* `stringBody_length` — the closing quote is taken off.
-/

namespace Phrasebook.Json5

open Phrasebook.Text

/-- A character that ends a line: LF, CR, U+2028 or U+2029. -/
def isTerminator (c : Char) : Bool :=
  c == '\n' || c == '\r' || c == '\u2028' || c == '\u2029'

/-- The character that a one-letter escape stands for.  A letter without a meaning of its own
stands for itself; digits, `x` and `u` begin longer escapes. -/
def simpleEscape? (c : Char) : Option Char :=
  if c = 'b' then some '\x08'
  else if c = 'f' then some '\x0c'
  else if c = 'n' then some '\n'
  else if c = 'r' then some '\r'
  else if c = 't' then some '\t'
  else if c = 'v' then some '\x0b'
  else if c = 'x' || c = 'u' || c.isDigit then none
  else some c

/-- Whether the characters go on with an ASCII digit. -/
def startsWithDigit : List Char → Bool
  | c :: _ => c.isDigit
  | [] => false

/-- The code points of a string up to its closing quote, and what follows the quote.  A raw line
feed or carriage return is refused, and so is a backslash without a valid escape; a backslash
before a line end joins two lines.  Each escape gives one code point: two halves that are escaped
one after the other stay two. -/
def stringBody (quote : Char) : List Char → Option (Text × List Char)
  | [] => none
  | '\\' :: '\r' :: '\n' :: rest => stringBody quote rest
  | '\\' :: '0' :: rest =>
    if startsWithDigit rest then none
    else (stringBody quote rest).map fun p => (.char '\x00' :: p.1, p.2)
  | '\\' :: 'x' :: a :: b :: rest =>
    match hexNumber? [a, b] with
    | some n => (stringBody quote rest).map fun p => (.ofUnit n :: p.1, p.2)
    | none => none
  | '\\' :: 'u' :: a :: b :: c :: d :: rest =>
    match hexNumber? [a, b, c, d] with
    | some n => (stringBody quote rest).map fun p => (.ofUnit n :: p.1, p.2)
    | none => none
  | '\\' :: c :: rest =>
    if isTerminator c then stringBody quote rest
    else
      match simpleEscape? c with
      | some e => (stringBody quote rest).map fun p => (.char e :: p.1, p.2)
      | none => none
  | c :: rest =>
    if c = quote then some ([], rest)
    else if c = '\\' || c = '\r' || c = '\n' then none
    else (stringBody quote rest).map fun p => (.char c :: p.1, p.2)

/-- The closing quote is taken off. -/
theorem stringBody_length (quote : Char) (s : List Char) :
    ∀ p ∈ stringBody quote s, p.2.length < s.length := by
  fun_induction stringBody quote s <;>
    simp_all only [Option.mem_def, Option.map_eq_some_iff, List.length_cons, reduceCtorEq,
      false_implies, implies_true, Option.some.injEq, forall_eq', forall_exists_index, and_imp,
      forall_apply_eq_imp_iff₂, Nat.lt_add_one]
  all_goals
    intro p hp
    rename_i ih
    have := ih p hp
    omega

end Phrasebook.Json5
