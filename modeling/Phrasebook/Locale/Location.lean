import Phrasebook.Files.Path
import Phrasebook.Text.Case

/-!
# Where locale files lie

A project keeps its locale files in one of two layouts:

* root files, such as `i18n/default.json` and `i18n/fr.json`;
* locale folders, such as `i18n/default/any-name.json` and `i18n/fr/any-name.json`.

Both `/` and a backslash separate parts, and the case of ASCII letters does not count.

* `Layout`, `Location` — a layout, and what the place of a file says about it.
* `Location.ofPath?` — the location of a written path, if it fits a layout.
-/

namespace Phrasebook

open Phrasebook.Text

/-- How the locale files of a project are laid out. -/
inductive Layout where
  /-- One file for each locale in the `i18n` folder. -/
  | rootFiles
  /-- One folder for each locale in the `i18n` folder. -/
  | localeFolders
  deriving DecidableEq, Repr

/-- What the place of a locale file says about it. -/
structure Location where
  layout : Layout
  isDefault : Bool
  deriving DecidableEq, Repr

/-- The folder of the locale files. -/
def i18nFolder : String := "i18n"

/-- The name of the default locale. -/
def defaultLocale : String := "default"

/-- The extension of a locale file. -/
def localeExtension : String := ".json"

/-- Whether a file name has the extension of a locale file. -/
def hasLocaleExtension (name : String) : Bool :=
  lowerAscii (splitExtension name).2 == localeExtension

/-- The location of a file, from the parts of its path: the last one first. -/
def Location.ofReversedParts? : List String → Option Location
  | [] => none
  | name :: folders =>
    if !hasLocaleExtension name then none
    else if folders.head?.map lowerAscii = some i18nFolder then
      some ⟨.rootFiles, lowerAscii (splitExtension name).1 == defaultLocale⟩
    else if folders[1]?.map lowerAscii = some i18nFolder then
      some ⟨.localeFolders, folders.head?.map lowerAscii == some defaultLocale⟩
    else none

/-- The path with each backslash as a slash. -/
def slashed (written : String) : String :=
  String.ofList (written.toList.map fun c => if c = '\\' then '/' else c)

/-- The location of a written path, or `none` if it fits neither layout. -/
def Location.ofPath? (written : String) : Option Location :=
  Location.ofReversedParts? (pathParts (slashed written)).reverse

end Phrasebook
