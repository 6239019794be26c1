import Phrasebook.Json5.Token
import Phrasebook.Json5.Value
import Phrasebook.Text.Trouble

/-!
# Reading a JSON5 document

A document is read token by token.  What has been read so far is a `State`: the unfinished
objects and arrays around the place that has been reached, and what may come there.

* `Hole`, `Hole.depth` — the place of a value: the whole document, an element or a member, and how
  deep inside the document it is.
* `State`, `State.step` — the reading, and what one token makes of it.  A place that is too deep is
  not reached.
* `Value.ofTokens`, `parse` — the value of some tokens and of a text.
-/

namespace Phrasebook.Json5

open Phrasebook.Text

/-- The place of a value.  Elements and members before it are kept in reverse. -/
inductive Hole where
  /-- The value is the whole document. -/
  | document
  /-- The value is the next element of an array. -/
  | element (before : List Value) (outer : Hole)
  /-- The value belongs to a key of an object. -/
  | member (before : List (Text × Value)) (key : Text) (outer : Hole)

/-- What an array around a place adds to its depth. -/
def arrayDepth : Nat := 16

/-- What an object around a place adds to its depth.  To read a member takes more than to read an
element, as there is a key to it. -/
def objectDepth : Nat := 22

/-- What it adds to the depth of a place that it is not the first one of its array or object. -/
def laterDepth {α : Type} (before : List α) : Nat :=
  if before.isEmpty then 0 else 4

/-- How deep inside a document a place is. -/
def Hole.depth : Hole → Nat
  | .document => 0
  | .element before outer => outer.depth + arrayDepth + laterDepth before
  | .member before _ outer => outer.depth + objectDepth + laterDepth before

/-- The greatest depth at which a value is read. -/
def maxDepth : Nat := 955

/-- What has been read, and what may come next. -/
inductive State where
  /-- A value has to come. -/
  | value (hole : Hole)
  /-- An element or the end of the array has to come. -/
  | element (before : List Value) (outer : Hole)
  /-- A comma or the end of the array has to come. -/
  | afterElement (before : List Value) (outer : Hole)
  /-- A key or the end of the object has to come. -/
  | key (before : List (Text × Value)) (outer : Hole)
  /-- The colon after a key has to come. -/
  | colon (before : List (Text × Value)) (key : Text) (outer : Hole)
  /-- A comma or the end of the object has to come. -/
  | afterMember (before : List (Text × Value)) (outer : Hole)
  /-- The document is complete. -/
  | complete (value : Value)

/-- Puts a value in its place. -/
def Hole.fill : Hole → Value → State
  | .document, v => .complete v
  | .element before outer, v => .afterElement (v :: before) outer
  | .member before key outer, v => .afterMember ((key, v) :: before) outer

/-- The value of a name that is no key. -/
def literal? (text : Text) : Option Value :=
  if text = ("null" : Text) then some .null
  else if text = ("true" : Text) then some (.bool true)
  else if text = ("false" : Text) then some (.bool false)
  else if text = ("Infinity" : Text) || text = ("NaN" : Text) then some .number
  else none

/-- Goes on to a place where a value may come, unless it is too deep. -/
def Hole.reach (hole : Hole) (next : State) : Except Trouble State :=
  if hole.depth ≤ maxDepth then .ok next else .error .tooDeep

/-- Begins a value at its place: a scalar fills the place, an object or array opens. -/
def Hole.start (hole : Hole) : Token → Except Trouble State
  | .string s => .ok (hole.fill (.string s))
  | .number _ => .ok (hole.fill .number)
  | .name text plain =>
    match if plain then literal? text else none with
    | some v => .ok (hole.fill v)
    | none => .error .malformed
  | .openBracket => (Hole.element [] hole).reach (.element [] hole)
  | .openBrace => .ok (.key [] hole)
  | _ => .error .malformed

/-- What one token makes of the reading, if it may come here. -/
def State.step : State → Token → Except Trouble State
  | .value hole, t => hole.start t
  | .element before outer, .closeBracket => .ok (outer.fill (.array before.reverse))
  | .element before outer, t => (Hole.element before outer).start t
  | .afterElement before outer, .comma => (Hole.element before outer).reach (.element before outer)
  | .afterElement before outer, .closeBracket => .ok (outer.fill (.array before.reverse))
  | .key before outer, .closeBrace => .ok (outer.fill (.object before.reverse))
  | .key before outer, .string s => .ok (.colon before s outer)
  | .key before outer, .name text _ => .ok (.colon before text outer)
  | .colon before k outer, .colon =>
    (Hole.member before k outer).reach (.value (.member before k outer))
  | .afterMember before outer, .comma => .ok (.key before outer)
  | .afterMember before outer, .closeBrace => .ok (outer.fill (.object before.reverse))
  | _, _ => .error .malformed

/-- The value that the tokens write. -/
def Value.ofTokens (ts : List Token) : Except Trouble Value :=
  match ts.foldlM State.step (.value .document) with
  | .ok (.complete v) => .ok v
  | .ok _ => .error .malformed
  | .error t => .error t

/-- The value that a text writes.  Once the whole text is known to be JSON5, an oversized number
in it makes it unreadable after all. -/
def parse (text : String) : Except Trouble Value :=
  let ts := tokens text.toList
  match Value.ofTokens ts with
  | .ok v => if ts.contains (.number true) then .error .malformed else .ok v
  | .error t => .error t

end Phrasebook.Json5
