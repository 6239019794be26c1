import Phrasebook.Bindings
import Phrasebook.ClassOptions

/-!
# Build properties

* `BuildProperties` — the five properties of a project that shape the class.
* `BuildProperties.get?`, `BuildProperties.toBindings` — a property by name, and all that are set.
* `BuildProperties.ofLookup` — the properties that a look-up gives.
-/

namespace Phrasebook

/-- The build properties that shape the class, each perhaps not set. -/
structure BuildProperties where
  namespaceName : Option String
  className : Option String
  modifiers : Option String
  rootNamespace : Option String
  assemblyName : Option String
  deriving DecidableEq, Repr, Inhabited

namespace BuildProperties

/-- The properties by name, in the order in which they are listed. -/
def toList (p : BuildProperties) : List (String × Option String) :=
  [(ClassOption.property .namespaceName, p.namespaceName),
   (ClassOption.property .className, p.className),
   (ClassOption.property .modifiers, p.modifiers),
   (rootNamespaceProperty, p.rootNamespace),
   (assemblyNameProperty, p.assemblyName)]

/-- The property of this name; names are told apart by case, and other names have no value. -/
def get? (p : BuildProperties) (name : String) : Option String :=
  (p.toList.lookup name).join

/-- The properties that are set. -/
def toBindings (p : BuildProperties) : Bindings String String :=
  Bindings.ofList (p.toList.filterMap fun q => q.2.map (q.1, ·))

/-- The properties that a look-up gives. -/
def ofLookup (lookup : String → Option String) : BuildProperties where
  namespaceName := lookup (ClassOption.property .namespaceName)
  className := lookup (ClassOption.property .className)
  modifiers := lookup (ClassOption.property .modifiers)
  rootNamespace := lookup rootNamespaceProperty
  assemblyName := lookup assemblyNameProperty

end BuildProperties

end Phrasebook
