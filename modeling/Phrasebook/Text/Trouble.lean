/-!
# Trouble with a text

* `Trouble` — why a text that should hold a value is not read.
-/

namespace Phrasebook.Text

/-- Why a text that should hold a value is not read. -/
inductive Trouble where
  /-- The text breaks the rules of its format. -/
  | malformed
  /-- Values are nested more deeply than is read. -/
  | tooDeep
  deriving DecidableEq, Repr

end Phrasebook.Text
