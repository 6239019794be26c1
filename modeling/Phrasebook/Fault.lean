/-!
# Faults

* `Fault` — a failure of the surroundings that no diagnostic foresees.
* `Fault.describe` — an account of the fault in words.
-/

namespace Phrasebook

/-- A failure that no diagnostic foresees.  It ends a pass. -/
inductive Fault where
  /-- The bytes of a file are not UTF-8. -/
  | undecodable
  /-- The text of a file nests values more deeply than is read. -/
  | tooDeep
  /-- Whoever supplies properties or texts failed, with a kind of failure and a message. -/
  | raised (kind message : String)
  deriving DecidableEq, Repr, Inhabited

/-- An account of the fault; it may have several lines. -/
def Fault.describe : Fault → String
  | .undecodable => "the file isn't valid UTF-8"
  | .tooDeep => "the values of the file are nested too deeply"
  | .raised kind message => kind ++ ": " ++ message

end Phrasebook
