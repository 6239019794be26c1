import Phrasebook.Log.Value

/-!
# Processors of log records

* `truncateText` — a text cut to a length, with a note of how long it was.
* `Processor`, `Processor.apply` — the changes made to a record before it is written.
-/

namespace Phrasebook.Log

/-- The first `limit` code points; of a negative limit, all but so many at the end. -/
def initialPart (limit : Int) (t : Text) : Text :=
  if 0 ≤ limit then t.take limit.toNat else t.take (t.length + limit).toNat

/-- A text longer than the limit is cut, and its length is noted. -/
def truncateText (limit : Int) (t : Text) : Text :=
  if limit < t.length then
    initialPart limit t ++ ("...[truncated, " ++ toString t.length ++ " chars total]" : String)
  else t

/-- Only texts are cut; what lists and records hold is left alone. -/
def Value.truncate (limit : Int) : Value → Value
  | .text t => .text (truncateText limit t)
  | v => v

/-- A change made to every record before it is written. -/
inductive Processor where
  /-- Cuts long texts. -/
  | truncate (limit : Int)
  /-- Adds the name and the version of the tool. -/
  | tool (name version : String)

/-- Makes the change. -/
def Processor.apply (p : Processor) (fields : Fields) : Fields :=
  match p with
  | .truncate limit => fields.map (Value.truncate limit)
  | .tool name version =>
    fields.override [("tool_name", .text name), ("tool_version", .text version)]

/-- Makes several changes, one after the other. -/
def process (processors : List Processor) (fields : Fields) : Fields :=
  processors.foldl (fun f p => p.apply f) fields

end Phrasebook.Log
