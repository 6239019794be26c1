import Phrasebook.Bindings
import Phrasebook.Fault
import Phrasebook.Json5.Document
import Phrasebook.Text.Bytes

/-!
# Keys and texts of a locale file

* `Defect`, `Defect.reason`, `Defect.pathOf` — why a file does not give keys and texts.
* `syntaxWords` — what stands for the words of the reader about a text that is not JSON5.
* `pairsOf` — the keys and texts in the text of a file.  Values that are nested too deeply are a
  fault and no defect.
* `Loader`, `Loader.ofBytes` — what gives the text of a file, for instance from its bytes.
* `loadPairs` — the keys and texts of a file that has to be loaded first.
-/

namespace Phrasebook

open Phrasebook.Json5 Phrasebook.Text

/-- Why a file does not give keys and texts. -/
inductive Defect where
  /-- The file cannot be opened, for a reason in words. -/
  | cannotOpen (message : String)
  /-- The text is not JSON5, or an integer in it has too many digits, in the words of the reader. -/
  | notJson (words : String)
  /-- The value is neither an object nor null. -/
  | notObject
  /-- The value of a key is no string. -/
  | notText (key : Text)
  /-- Whoever loads the file blames a file, for a reason in words. -/
  | refused (path : String) (reason : Text)
  deriving DecidableEq, Repr

/-- The reason in words. -/
def Defect.reason : Defect → Text
  | .cannotOpen message => "the file can't be opened (" ++ message ++ ")"
  | .notJson words => "the file isn't valid JSON (" ++ words ++ ")"
  | .notObject => "expected a JSON object mapping translation keys to text"
  | .notText key => "the value for key '" ++ key ++ "' must be a string"
  | .refused _ reason => reason

/-- The path of the file that is to blame, when the file at a path was asked for. -/
def Defect.pathOf (asked : String) : Defect → String
  | .refused path _ => path
  | _ => asked

/-- The members of an object whose values are all strings; otherwise the first other one is to
blame. -/
def textMembers : List (Text × Value) → Except Defect (List (Text × Text))
  | [] => .ok []
  | (key, .string text) :: rest => (textMembers rest).map ((key, text) :: ·)
  | (key, _) :: _ => .error (.notText key)

/-- The keys and texts of a value.  A key that occurs twice has its first place and its last
value, and null counts as an object without members. -/
def Json5.Value.pairs : Value → Except Defect (List (Text × Text))
  | .null => .ok []
  | .object members => textMembers (Bindings.ofList members).toList
  | _ => .error .notObject

/-- The words of the reader for a text that it does not take.  They are the same for all texts and
do not say where it goes wrong.  Nothing depends on them: what is proved about `Defect.notJson` is
proved for any words. -/
def syntaxWords : String := "syntax error"

/-- The keys and texts in the text of a file. -/
def pairsOf (text : String) : Except Fault (Except Defect (List (Text × Text))) :=
  match parse text with
  | .ok v => .ok v.pairs
  | .error .malformed => .ok (.error (.notJson syntaxWords))
  | .error .tooDeep => .error .tooDeep

/-- Why a file gives no text. -/
inductive LoadError where
  /-- The file cannot be opened, for a reason in words. -/
  | unavailable (message : String)
  /-- A file is blamed for not giving keys and texts, for a reason in words. -/
  | refused (path : String) (reason : Text)
  /-- Something unforeseen happened. -/
  | fault (f : Fault)
  deriving DecidableEq, Repr

/-- Gives the text of a file by its path. -/
abbrev Loader := String → Except LoadError String

/-- Loads files whose bytes are known; what has no bytes cannot be opened. -/
def Loader.ofBytes (bytes? : String → Option ByteArray) : Loader := fun path =>
  match bytes? path with
  | none => .error (.unavailable path)
  | some bytes =>
    match readText bytes with
    | none => .error (.fault .undecodable)
    | some text => .ok text

/-- The keys and texts of the file at a path: a defect is the file's own, and anything
unforeseen stays a fault. -/
def loadPairs (load : Loader) (path : String) :
    Except Fault (Except Defect (List (Text × Text))) :=
  match load path with
  | .error (.fault f) => .error f
  | .error (.unavailable message) => .ok (.error (.cannotOpen message))
  | .error (.refused path reason) => .ok (.error (.refused path reason))
  | .ok text => pairsOf text

end Phrasebook
