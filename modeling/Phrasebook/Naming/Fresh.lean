/-!
# Fresh names

A name that is taken is made different by underscores in front of it.

* `underscored` — a name after so many underscores.
* `freshCount` — the least number of underscores that makes a name different from all used ones.
* `fresh` — the name with that many underscores.
-/

namespace Phrasebook.Naming

/-- A name after `n` underscores. -/
def underscored (n : Nat) (name : String) : String :=
  String.ofList (List.replicate n '_' ++ name.toList)

/-- The least number of underscores that makes the name different from all used ones.  Among
one more number than there are used names some number does. -/
def freshCount (used : List String) (name : String) : Nat :=
  ((List.range (used.length + 1)).find? fun n => !used.contains (underscored n name)).getD 0

/-- The name, after the fewest underscores that make it different from all used ones. -/
def fresh (used : List String) (name : String) : String :=
  underscored (freshCount used name) name

end Phrasebook.Naming
