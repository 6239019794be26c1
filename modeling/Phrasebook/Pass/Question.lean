import Phrasebook.Fault

/-!
# Questions of a pass

A pass asks for build properties and for the texts of files.  The same property may be asked for
more than once, and the same file may be listed twice, and the answers need not be the same.  So a
question says what it is asked for: no two questions of a pass are equal.

* `ClassOption` — the options that have a build property of their own.
* `Purpose` — what a build property is read for.
* `Question` — what a pass asks for.
-/

namespace Phrasebook

/-- The options that have a build property of their own. -/
inductive ClassOption where
  | namespaceName
  | className
  | modifiers
  deriving DecidableEq, Repr

/-- What a build property is read for. -/
inductive Purpose where
  /-- The value of an option. -/
  | value (o : ClassOption)
  /-- The name of the assembly, for the report that an option does not take its value. -/
  | report (o : ClassOption)
  /-- The root namespace, where no namespace is given. -/
  | rootNamespace
  /-- The name of the assembly, where there is no root namespace either. -/
  | assemblyName
  deriving DecidableEq, Repr

/-- What a pass asks for. -/
inductive Question where
  /-- A build property. -/
  | property (purpose : Purpose)
  /-- The text of the file at a path, which stands in this place of the list, counted from 0. -/
  | file (turn : Nat) (path : String)
  deriving DecidableEq, Repr

end Phrasebook
