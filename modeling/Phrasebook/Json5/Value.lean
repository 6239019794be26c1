import Phrasebook.Text.Basic

/-!
# Values of JSON5

* `Value` — a value as it is written: members keep their order, and a key may occur twice.
-/

namespace Phrasebook.Json5

/-- A value.  Of a number only its presence is kept, as no reader asks for its size. -/
inductive Value where
  | null
  | bool (b : Bool)
  | number
  | string (s : Text)
  | array (elements : List Value)
  | object (members : List (Text × Value))
  deriving Inhabited

end Phrasebook.Json5
