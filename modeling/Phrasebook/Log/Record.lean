import Phrasebook.Log.Context
import Phrasebook.Log.Event
import Phrasebook.Log.Processor

/-!
# Log records

* `Record` — an event with the context in which it was logged.
* `Record.write` — the fields of a record as they are written.
* `kept` — the records from a level on.
-/

namespace Phrasebook.Log

/-- The name that the tool gives itself. -/
def toolName : String := "translation-class-builder"

/-- The version of the tool. -/
def toolVersion : String := "1.0.0"

/-- The longest text that is written in full. -/
def textLimit : Int := 500

/-- An event with the context in which it was logged. -/
structure Record where
  event : Event
  context : Fields

/-- The fields of a record as they are written: the context, the event's own fields and what is
known of every event, with long texts cut. -/
def Record.write (r : Record) : Fields :=
  process [.tool toolName toolVersion, .truncate textLimit]
    ((r.context.override r.event.fields).override
      [("event", .text r.event.name), ("component", .text r.event.component),
        ("level", .text r.event.level.name)])

/-- The records whose level is at least the threshold. -/
def kept (threshold : Nat) (records : List Record) : List Record :=
  records.filter fun r => threshold ≤ r.event.level.severity

end Phrasebook.Log
