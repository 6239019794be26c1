import Phrasebook.CSharp.Keyword
import Phrasebook.Pass.Step
import Phrasebook.Text.Blank
import Phrasebook.Text.Fields
import Phrasebook.Text.Line

/-!
# Options of the generated class

The build properties of a project may give a namespace, a name and modifiers for the class.  A
value that an option does not take is reported, and the default stands in.

* `ClassOptions` — the three options.
* `ClassOption.parse` — the values that an option takes.
* `OptionDefect` — why it does not take a value.
* `Properties`, `Answers`, `readOption`, `resolveWith`, `resolveOptions` — the options that build
  properties give.
-/

namespace Phrasebook

open Phrasebook.CSharp Phrasebook.Log Phrasebook.Text

/-- The options of a class. -/
structure ClassOptions where
  namespaceName : String
  className : String
  modifiers : String
  deriving DecidableEq, Repr, Inhabited

/-- The file that the class is written to. -/
def ClassOptions.hintName (o : ClassOptions) : String :=
  o.className ++ ".generated.cs"

/-- Why an option does not take a value. -/
inductive OptionDefect where
  /-- The value does not have the required form, which is given as a pattern. -/
  | form (pattern : String)
  /-- A part of the value is a keyword. -/
  | keyword (part : String)
  /-- There are no such modifiers. -/
  | unknownModifiers (words : List String)
  /-- A modifier is listed twice. -/
  | repeatedModifier
  deriving DecidableEq, Repr

/-- The defect in words. -/
def OptionDefect.message : OptionDefect → String
  | .form pattern => "String should match pattern '" ++ pattern ++ "'"
  | .keyword part => "Value error, '" ++ part ++ "' is a reserved C# keyword"
  | .unknownModifiers words => "Value error, unknown class modifiers: " ++ join ", " words
  | .repeatedModifier => "Value error, each class modifier can only be listed once"

/-! ### Values that an option takes -/

/-- An ASCII letter or underscore, and then such characters and ASCII digits. -/
def isPlainIdentifier (s : String) : Bool :=
  match s.toList with
  | [] => false
  | c :: rest => (c.isAlpha || c == '_') && rest.all fun c => c.isAlphanum || c == '_'

/-- The pattern of a plain identifier. -/
def identifierPattern : String := "^[A-Za-z_][A-Za-z0-9_]*$"

/-- The pattern of plain identifiers with dots between them. -/
def dottedPattern : String := "^[A-Za-z_][A-Za-z0-9_]*(\\.[A-Za-z_][A-Za-z0-9_]*)*$"

/-- The modifiers that a class may have. -/
def classModifiers : List String :=
  ["public", "internal", "private", "protected", "file", "static", "sealed", "abstract",
   "partial", "unsafe", "new"]

/-- A value of identifiers with dots between them, none of them a keyword. -/
def parseDotted (value : String) : Except OptionDefect String :=
  let parts := fields '.' value
  if !parts.all isPlainIdentifier then .error (.form dottedPattern)
  else
    match parts.find? isKeyword with
    | some part => .error (.keyword part)
    | none => .ok value

/-- A value that is an identifier and no keyword. -/
def parseIdentifier (value : String) : Except OptionDefect String :=
  if !isPlainIdentifier value then .error (.form identifierPattern)
  else if isKeyword value then .error (.keyword value)
  else .ok value

/-- Whether no word occurs twice. -/
def allDistinct : List String → Bool
  | [] => true
  | w :: rest => !rest.contains w && allDistinct rest

/-- A value of different modifiers, which are put together with single spaces. -/
def parseModifiers (value : String) : Except OptionDefect String :=
  let list := words value
  let unknown := list.filter (!classModifiers.contains ·)
  if !unknown.isEmpty then .error (.unknownModifiers unknown)
  else if !allDistinct list then .error .repeatedModifier
  else .ok (join " " list)

namespace ClassOption

/-- The name of the option. -/
def name : ClassOption → String
  | .namespaceName => "Namespace"
  | .className => "ClassName"
  | .modifiers => "ClassModifiers"

/-- The build property that gives the option. -/
def property (o : ClassOption) : String :=
  "TranslationClassBuilder_" ++ o.name

/-- What the values of the option are called. -/
def typeName : ClassOption → String
  | .namespaceName => "namespace"
  | .className => "class name"
  | .modifiers => "list of class modifiers"

/-- The value of the option that a text without blanks at its ends gives. -/
def parse : ClassOption → String → Except OptionDefect String
  | .namespaceName => parseDotted
  | .className => parseIdentifier
  | .modifiers => parseModifiers

/-- Why the option does not take a value, for a diagnostic. -/
def explain (o : ClassOption) (raw : String) (defect : OptionDefect) : String :=
  "can't parse value '" ++ raw ++ "' as a " ++ o.typeName ++ ". Technical details: "
    ++ oneLine defect.message

end ClassOption

/-! ### Reading the options -/

/-- The property that names the root namespace of the project. -/
def rootNamespaceProperty : String := "RootNamespace"

/-- The property that names the assembly of the project. -/
def assemblyNameProperty : String := "AssemblyName"

/-- The build property that is read for a purpose. -/
def Purpose.property : Purpose → String
  | .value o => o.property
  | .rootNamespace => rootNamespaceProperty
  | .report _ | .assemblyName => assemblyNameProperty

/-- Gives the build properties of a project by name. -/
abbrev Properties := String → Except Fault (Option String)

/-- Gives the build properties of a project by what they are read for. -/
abbrev Answers := Purpose → Except Fault (Option String)

/-- A property is the same for whatever it is read. -/
def Properties.answers (properties : Properties) : Answers :=
  fun purpose => properties purpose.property

/-- Reads a build property for a purpose. -/
def consult (answers : Answers) (purpose : Purpose) : Step (Option String) :=
  Step.ask (.property purpose) (answers purpose)

/-- A text without the blanks at its ends, unless nothing else is left of it. -/
def nonBlank? (value : Option String) : Option String :=
  (value.map trim).filter (· ≠ "")

/-- Reads an option.  A value that the option does not take is logged and reported, with the
name of the assembly. -/
def readOption (answers : Answers) (o : ClassOption) : Step (Option String) := do
  match nonBlank? (← consult answers (.value o)) with
  | none => return none
  | some raw =>
    match o.parse raw with
    | .ok value => return some value
    | .error defect =>
      Step.log (.invalidOption o.name raw)
      let assembly ← consult answers (.report o)
      Step.report ⟨.invalidOption, [assembly, some o.name, some (o.explain raw defect)]⟩
      return none

/-- The namespace when no other one is given. -/
def defaultNamespace : String := "ModTranslations"

/-- The class name when no other one is given. -/
def defaultClassName : String := "I18n"

/-- The modifiers when no others are given. -/
def defaultModifiers : String := "internal static"

/-- The namespace for a project whose option gives none: that of the project, then the name of
its assembly. -/
def fallbackNamespace (answers : Answers) : Step String := do
  match nonBlank? (← consult answers .rootNamespace) with
  | some root => return root
  | none =>
    return (nonBlank? (← consult answers .assemblyName)).getD defaultNamespace

/-- The namespace of the class. -/
def resolveNamespace (answers : Answers) : Step String := do
  match ← readOption answers .namespaceName with
  | some value => return value
  | none => fallbackNamespace answers

/-- The options that the answers give. -/
def resolveWith (answers : Answers) : Step ClassOptions := do
  let namespaceName ← resolveNamespace answers
  let className ← readOption answers .className
  let modifiers ← readOption answers .modifiers
  return ⟨namespaceName, className.getD defaultClassName, modifiers.getD defaultModifiers⟩

/-- The options that the build properties give. -/
def resolveOptions (properties : Properties) : Step ClassOptions :=
  resolveWith properties.answers

end Phrasebook
