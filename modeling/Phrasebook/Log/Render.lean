import Phrasebook.Log.Record
import Phrasebook.Text.Fields
import Phrasebook.Text.Hex

/-!
# Rendering log records

* `Value.toJson` — a value as JSON.
* `Record.jsonLine`, `Record.consoleLine` — a record as one line for a log collector or a person.
-/

namespace Phrasebook.Log

open Phrasebook.Text

/-- How a character is written in a JSON string. -/
def jsonChar (c : Char) : List Char :=
  if c = '"' then ['\\', '"']
  else if c = '\\' then ['\\', '\\']
  else if c = '\n' then ['\\', 'n']
  else if c = '\r' then ['\\', 'r']
  else if c = '\t' then ['\\', 't']
  else if c.toNat < 0x20 then '\\' :: 'u' :: hex4 c.toNat
  else [c]

/-- How a code point is written in a JSON string. -/
def jsonPoint : Point → List Char
  | .char c => jsonChar c
  | .half h => '\\' :: 'u' :: hex4 h.code

/-- A text as a JSON string. -/
def jsonString (t : Text) : String :=
  "\"" ++ String.ofList (t.flatMap jsonPoint) ++ "\""

mutual

/-- A value as JSON. -/
def Value.toJson : Value → String
  | .null => "null"
  | .flag b => if b then "true" else "false"
  | .number n => toString n
  | .text t => jsonString t
  | .list items => "[" ++ join ", " (itemsToJson items) ++ "]"
  | .record fields => "\x7b" ++ join ", " (fieldsToJson fields) ++ "\x7d"

/-- The items of a list as JSON. -/
def itemsToJson : List Value → List String
  | [] => []
  | v :: rest => v.toJson :: itemsToJson rest

/-- The fields of a record as JSON. -/
def fieldsToJson : List (String × Value) → List String
  | [] => []
  | (name, v) :: rest => (jsonString name ++ ": " ++ v.toJson) :: fieldsToJson rest

end

/-- A record as one line of JSON. -/
def Record.jsonLine (r : Record) : String :=
  (Value.record r.write.toList).toJson

/-- A record as a line to read: its level, its name and its other fields. -/
def Record.consoleLine (r : Record) : String :=
  let others := ((r.write.erase "event").erase "level").toList
  let fields := others.map fun p => p.1 ++ "=" ++ p.2.toJson
  join " " (("[" ++ r.event.level.name ++ "] " ++ r.event.name) :: fields)

end Phrasebook.Log
