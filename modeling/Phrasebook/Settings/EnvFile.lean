import Phrasebook.Bindings
import Phrasebook.Text.Blank
import Phrasebook.Text.Line

/-!
# Environment files

An environment file defines names, one definition `NAME=VALUE` after the other.

* `afterMark` — the text after a byte order mark.
* `quotedBody?`, `unquoted`, `value?` — the ways to write a value.
* `definition` — the definition at the start of some characters, and what follows it.
* `definitions` — all definitions of a file.
* `interpolate` — a value with the names in it replaced by their values.
* `EnvFile.read` — the names that a file defines.
-/

namespace Phrasebook

open Phrasebook.Text

namespace EnvFile

/-- The characters after the byte order mark, if there is one. -/
def afterMark : List Char → List Char
  | '\ufeff' :: rest => rest
  | s => s

/-- A blank within a line. -/
def isLineBlank (c : Char) : Bool :=
  isBlank c && c != '\n'

/-- The characters after the blanks of a line. -/
def skipLineBlanks (s : List Char) : List Char :=
  s.dropWhile isLineBlank

/-- The characters up to the end of the line. -/
def lineRest (s : List Char) : List Char :=
  s.takeWhile (· ≠ '\n')

/-- The characters from the end of the line on. -/
def afterLine (s : List Char) : List Char :=
  s.dropWhile (· ≠ '\n')

/-- What follows a comment, which goes on to the end of the line. -/
def skipComment (s : List Char) : List Char :=
  match skipLineBlanks s with
  | '#' :: rest => afterLine rest
  | _ => s

/-- What follows the end of a line, if there is nothing but blanks before it. -/
def lineEnd? (s : List Char) : Option (List Char) :=
  match skipLineBlanks s with
  | [] => some []
  | '\n' :: rest => some rest
  | _ => none

/-- The characters after the word `export`, if blanks follow it. -/
def skipExport (s : List Char) : List Char :=
  match "export".toList.isPrefixOf? s with
  | some (c :: rest) => if isLineBlank c then skipLineBlanks rest else s
  | _ => s

/-- The characters up to a closing quote, and what follows it.  A backslash keeps the character
after it from closing. -/
def quotedBody? (quote : Char) : List Char → Option (List Char × List Char)
  | [] => none
  | '\\' :: c :: rest => (quotedBody? quote rest).map fun p => ('\\' :: c :: p.1, p.2)
  | c :: rest =>
    if c = quote then some ([], rest)
    else (quotedBody? quote rest).map fun p => (c :: p.1, p.2)

/-- The character that a backslash and a letter stand for between double quotes. -/
def doubleEscape? (c : Char) : Option Char :=
  if c = '\\' || c = '\x27' || c = '"' then some c
  else if c = 'a' then some '\x07'
  else if c = 'b' then some '\x08'
  else if c = 'f' then some '\x0c'
  else if c = 'n' then some '\n'
  else if c = 'r' then some '\r'
  else if c = 't' then some '\t'
  else if c = 'v' then some '\x0b'
  else none

/-- The character that a backslash and a character stand for between single quotes. -/
def singleEscape? (c : Char) : Option Char :=
  if c = '\\' || c = '\x27' then some c else none

/-- Replaces each escape by its character; a backslash without a meaning stands for itself. -/
def unescape (escape? : Char → Option Char) : List Char → List Char
  | [] => []
  | '\\' :: c :: rest =>
    match escape? c with
    | some e => e :: unescape escape? rest
    | none => '\\' :: unescape escape? (c :: rest)
  | c :: rest => c :: unescape escape? rest

/-- The part of a line before a comment, which has a blank before it. -/
def beforeComment : List Char → List Char
  | [] => []
  | c :: rest =>
    if isBlank c then
      match rest.dropWhile isBlank with
      | '#' :: _ => []
      | _ => c :: beforeComment rest
    else c :: beforeComment rest

/-- A value without quotes: the line up to a comment, without blanks at its ends. -/
def unquoted (line : List Char) : List Char :=
  trimChars (beforeComment line)

/-- The value after an equals sign, and what follows it; `none` if a quote is not closed. -/
def value? (s : List Char) : Option (List Char × List Char) :=
  match skipLineBlanks s with
  | '\x27' :: rest => (quotedBody? '\x27' rest).map fun p => (unescape singleEscape? p.1, p.2)
  | '"' :: rest => (quotedBody? '"' rest).map fun p => (unescape doubleEscape? p.1, p.2)
  | _ => some (unquoted (lineRest s), afterLine s)

/-- The name of a definition, and what follows it.  There is no name on a line with only a
comment; `none` if there should be one. -/
def name? (s : List Char) : Option (Option (List Char) × List Char) :=
  match s with
  | [] => none
  | '#' :: _ => some (none, s)
  | '\x27' :: rest =>
    let name := rest.takeWhile (· ≠ '\x27')
    match name.isEmpty, rest.dropWhile (· ≠ '\x27') with
    | false, _ :: after => some (some name, after)
    | _, _ => none
  | _ =>
    let isNameChar := fun c => !(c == '=' || c == '#' || isBlank c)
    let name := s.takeWhile isNameChar
    if name.isEmpty then none else some (some name, s.dropWhile isNameChar)

/-- A name and its value.  A name without an equals sign has none. -/
abbrev Definition := String × Option String

/-- Reads a name and, after an equals sign, a value; then come the characters that follow them.
If there is no such thing, the characters at which reading stopped are given. -/
def nameAndValue (s : List Char) : Except (List Char) (Option Definition × List Char) :=
  match name? s with
  | none => .error s
  | some (name, afterName) =>
    let define := fun (value : Option (List Char)) =>
      name.map fun n => (String.ofList n, value.map String.ofList)
    match skipLineBlanks afterName with
    | '=' :: rest =>
      match value? rest with
      | none => .error rest
      | some (value, after) => .ok (define (some value), after)
    | rest => .ok (define none, rest)

/-- The definition at the start of some characters, and what follows it.  A line that is no
definition is passed over. -/
def definition (s : List Char) : Option Definition × List Char :=
  match nameAndValue (skipExport (s.dropWhile isBlank)) with
  | .error rest => (none, (afterLine rest).drop 1)
  | .ok (d, rest) =>
    let rest := skipComment rest
    match lineEnd? rest with
    | some after => (d, after)
    | none => (none, (afterLine rest).drop 1)

/-- All definitions, in order. -/
def definitions (s : List Char) : List Definition :=
  if (s.dropWhile isBlank).isEmpty then []
  else
    let (d, rest) := definition s
    if _h : rest.length < s.length then d.toList ++ definitions rest else d.toList
termination_by s.length

/-- The name and the default between the braces of `${NAME:-DEFAULT}`, and what follows them. -/
def reference? (s : List Char) : Option (List Char × List Char × List Char) :=
  let name := s.takeWhile fun c => !(c == '\x7d' || c == ':')
  match s.dropWhile fun c => !(c == '\x7d' || c == ':') with
  | '\x7d' :: rest => some (name, [], rest)
  | ':' :: '-' :: more =>
    match more.dropWhile (· ≠ '\x7d') with
    | _ :: rest => some (name, more.takeWhile (· ≠ '\x7d'), rest)
    | [] => none
  | _ => none

/-- A value whose references are replaced by what the names stand for. -/
def interpolate (lookup : String → Option String) (s : List Char) : List Char :=
  match s with
  | [] => []
  | '$' :: '\x7b' :: inner =>
    match reference? inner with
    | some (name, default, rest) =>
      let value := ((lookup (String.ofList name)).map String.toList).getD default
      if _h : rest.length < inner.length then value ++ interpolate lookup rest else value
    | none => '$' :: interpolate lookup ('\x7b' :: inner)
  | c :: rest => c :: interpolate lookup rest
termination_by s.length
decreasing_by
  all_goals
    simp only [List.length_cons]
    omega

/-- The names that values refer to. -/
def references (s : List Char) : List String :=
  match s with
  | [] => []
  | '$' :: '\x7b' :: inner =>
    match reference? inner with
    | some (name, _, _) => String.ofList name :: references inner
    | none => references inner
  | _ :: rest => references rest

/-- The names defined so far, after one more definition.  Its value may refer to names defined
before it and to the environment. -/
def define (environment : String → Option String) (known : Bindings String (Option String))
    (d : Definition) : Bindings String (Option String) :=
  let lookup := fun name =>
    match known.get? name with
    | some value => some (value.getD "")
    | none => environment name
  known.set d.1 (d.2.map fun value => String.ofList (interpolate lookup value.toList))

/-- The names that a file defines.  The last definition of a name counts; a name may be defined
to have no value. -/
def read (environment : String → Option String) (text : String) : Bindings String (Option String) :=
  (definitions (unixNewlines (afterMark text.toList))).foldl (define environment) ∅

end EnvFile

end Phrasebook
