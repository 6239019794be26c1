import Phrasebook.Text.Hex
import Phrasebook.Text.Trouble

/-!
# Checking JSON

Whether a text is JSON is decided character by character.  `NaN` and the infinities count as
numbers.

* `Frame`, `Phase`, `State` — the objects and arrays that are open, and what may come next.
* `State.step` — what one character makes of it.
* `check` — whether a text is JSON.
-/

namespace Phrasebook.Json

open Phrasebook.Text

/-- An object or array that is open. -/
inductive Frame where
  | array
  | object
  deriving DecidableEq, Repr

/-- The most objects and arrays that may be open at once. -/
def maxOpen : Nat := 980

/-- The most digits that an integer may have. -/
def maxDigits : Nat := 4300

/-- What may come next. -/
inductive Phase where
  /-- A value has to come. -/
  | value
  /-- The first element or the end of an array has to come. -/
  | firstElement
  /-- The first key or the end of an object has to come. -/
  | firstKey
  /-- A key has to come. -/
  | key
  /-- The colon after a key has to come. -/
  | colon
  /-- A value is complete. -/
  | after
  /-- Inside a string, which may be a key. -/
  | string (isKey : Bool)
  /-- After a backslash in a string. -/
  | escape (isKey : Bool)
  /-- Inside an escape of which so many hexadecimal digits are missing. -/
  | hex (missing : Nat) (isKey : Bool)
  /-- Inside a word of which these letters are missing. -/
  | word (missing : List Char)
  /-- After a minus sign. -/
  | minus
  /-- After a single zero. -/
  | zero
  /-- After so many digits. -/
  | digits (count : Nat)
  /-- After the point of a number. -/
  | point
  /-- Inside the digits after the point. -/
  | fraction
  /-- After the `e` of a number. -/
  | exponent
  /-- After the sign of an exponent. -/
  | exponentSign
  /-- Inside the digits of an exponent. -/
  | exponentDigits
  deriving DecidableEq, Repr

/-- The objects and arrays that are open, the innermost one first, and what may come next. -/
structure State where
  frames : List Frame
  phase : Phase
  deriving DecidableEq, Repr

/-- A character between two tokens. -/
def isGap (c : Char) : Bool :=
  c == ' ' || c == '\t' || c == '\n' || c == '\r'

/-- A character that a backslash and one letter write. -/
def isEscapeLetter (c : Char) : Bool :=
  ['"', '\\', '/', 'b', 'f', 'n', 'r', 't'].contains c

namespace State

/-- The same objects and arrays are open, and something else may come next. -/
def expect (s : State) (phase : Phase) : Except Trouble State :=
  .ok { s with phase := phase }

/-- Opens an object or array. -/
def enter (s : State) (frame : Frame) (phase : Phase) : Except Trouble State :=
  if s.frames.length < maxOpen then .ok ⟨frame :: s.frames, phase⟩ else .error .tooDeep

/-- Begins a value with a character. -/
def start (s : State) (c : Char) : Except Trouble State :=
  if c = '"' then s.expect (.string false)
  else if c = '[' then s.enter .array .firstElement
  else if c = '\x7b' then s.enter .object .firstKey
  else if c = 'n' then s.expect (.word "ull".toList)
  else if c = 't' then s.expect (.word "rue".toList)
  else if c = 'f' then s.expect (.word "alse".toList)
  else if c = 'N' then s.expect (.word "aN".toList)
  else if c = 'I' then s.expect (.word "nfinity".toList)
  else if c = '-' then s.expect .minus
  else if c = '0' then s.expect .zero
  else if c.isDigit then s.expect (.digits 1)
  else .error .malformed

/-- What may come after a complete value: a comma, or the end of what is open. -/
def follow (s : State) (c : Char) : Except Trouble State :=
  if isGap c then s.expect .after
  else
    match s.frames with
    | [] => .error .malformed
    | .array :: outer =>
      if c = ',' then s.expect .value
      else if c = ']' then .ok ⟨outer, .after⟩
      else .error .malformed
    | .object :: outer =>
      if c = ',' then s.expect .key
      else if c = '\x7d' then .ok ⟨outer, .after⟩
      else .error .malformed

/-- What a character makes of an integer with so many digits: they go on, or something else
follows them. -/
def followInteger (s : State) (count : Nat) (c : Char) : Except Trouble State :=
  if c = '.' then s.expect .point
  else if c = 'e' || c = 'E' then s.expect .exponent
  else if count ≤ maxDigits then s.follow c
  else .error .malformed

/-- What one character makes of the reading. -/
def step (s : State) (c : Char) : Except Trouble State :=
  match s.phase with
  | .value => if isGap c then .ok s else s.start c
  | .firstElement =>
    if isGap c then .ok s
    else if c = ']' then .ok ⟨s.frames.tail, .after⟩
    else s.start c
  | .firstKey =>
    if isGap c then .ok s
    else if c = '\x7d' then .ok ⟨s.frames.tail, .after⟩
    else if c = '"' then s.expect (.string true)
    else .error .malformed
  | .key =>
    if isGap c then .ok s
    else if c = '"' then s.expect (.string true)
    else .error .malformed
  | .colon =>
    if isGap c then .ok s
    else if c = ':' then s.expect .value
    else .error .malformed
  | .after => s.follow c
  | .string isKey =>
    if c = '"' then s.expect (if isKey then .colon else .after)
    else if c = '\\' then s.expect (.escape isKey)
    else if c.toNat < 0x20 then .error .malformed
    else .ok s
  | .escape isKey =>
    if c = 'u' then s.expect (.hex 4 isKey)
    else if isEscapeLetter c then s.expect (.string isKey)
    else .error .malformed
  | .hex missing isKey =>
    if (hexValue? c).isSome then
      s.expect (if missing ≤ 1 then .string isKey else .hex (missing - 1) isKey)
    else .error .malformed
  | .word missing =>
    match missing with
    | [] => s.follow c
    | d :: rest =>
      if c = d then s.expect (if rest.isEmpty then .after else .word rest)
      else .error .malformed
  | .minus =>
    if c = 'I' then s.expect (.word "nfinity".toList)
    else if c = '0' then s.expect .zero
    else if c.isDigit then s.expect (.digits 1)
    else .error .malformed
  | .zero => s.followInteger 1 c
  | .digits count => if c.isDigit then s.expect (.digits (count + 1)) else s.followInteger count c
  | .point => if c.isDigit then s.expect .fraction else .error .malformed
  | .fraction =>
    if c.isDigit then .ok s
    else if c = 'e' || c = 'E' then s.expect .exponent
    else s.follow c
  | .exponent =>
    if c = '+' || c = '-' then s.expect .exponentSign
    else if c.isDigit then s.expect .exponentDigits
    else .error .malformed
  | .exponentSign => if c.isDigit then s.expect .exponentDigits else .error .malformed
  | .exponentDigits => if c.isDigit then .ok s else s.follow c

/-- Whether the text may end here: nothing is open, and a value is complete. -/
def isComplete (s : State) : Bool :=
  s.frames.isEmpty &&
    match s.phase with
    | .after | .zero | .fraction | .exponentDigits => true
    | .digits count => count ≤ maxDigits
    | _ => false

end State

/-- Checks that a text is JSON. -/
def check (text : String) : Except Trouble Unit :=
  match text.toList.foldlM State.step ⟨[], .value⟩ with
  | .error t => .error t
  | .ok s => if s.isComplete then .ok () else .error .malformed

end Phrasebook.Json
