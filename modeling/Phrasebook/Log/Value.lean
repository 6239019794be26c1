import Phrasebook.Bindings
import Phrasebook.Text.Basic

/-!
# Values in a log

* `Log.Value` — what a field of a log record can hold.
* `Log.Fields` — the named fields of a record.
-/

namespace Phrasebook.Log

/-- What a field of a log record can hold. -/
inductive Value where
  | null
  | flag (b : Bool)
  | number (n : Int)
  | text (t : Text)
  | list (items : List Value)
  | record (fields : List (String × Value))
  deriving Inhabited

/-- The fields of a record, by name. -/
abbrev Fields := Bindings String Value

end Phrasebook.Log
