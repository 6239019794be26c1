import Phrasebook.Text.Basic

/-!
# Diagnostics

Whatever goes wrong is reported as a diagnostic of one of eight kinds.  A kind has a code, a
title, a severity and a template for its message; a diagnostic adds the arguments.

* `Severity`, `DiagnosticKind` — the kinds and what is fixed for each of them.
* `Piece`, `fill` — templates, and a template with its arguments put in.
* `Diagnostic`, `Diagnostic.message`, `Diagnostic.render` — a diagnostic and its text.
-/

namespace Phrasebook

open Phrasebook.Text

/-- How serious a diagnostic is. -/
inductive Severity where
  /-- No class was generated. -/
  | error
  /-- Something was ignored or replaced by a default. -/
  | warning
  deriving DecidableEq, Repr

/-- The word for a severity. -/
def Severity.name : Severity → String
  | .error => "error"
  | .warning => "warning"

/-- A piece of a message template. -/
inductive Piece where
  /-- Text that stands as it is. -/
  | text (s : String)
  /-- The argument of this number. -/
  | argument (n : Nat)
  deriving DecidableEq, Repr

/-- A message template. -/
abbrev Template := List Piece

/-- The template as it is written down: an argument is its number between braces. -/
def Template.format (t : Template) : String :=
  String.join (t.map fun
    | .text s => s
    | .argument n => "\x7b" ++ toString n ++ "\x7d")

/-- How an argument is written; one that is missing on purpose is written `None`. -/
def showArgument (a : Option Text) : Text :=
  a.getD "None"

/-- The template with its arguments put in, or the number of the first one that there is not. -/
def fill (arguments : List (Option Text)) : Template → Except Nat Text
  | [] => .ok []
  | .text s :: rest => (fill arguments rest).map (s ++ ·)
  | .argument n :: rest =>
    match arguments[n]? with
    | none => .error n
    | some a => (fill arguments rest).map (showArgument a ++ ·)

/-- What can be reported. -/
inductive DiagnosticKind where
  /-- A file fits neither layout. -/
  | invalidLocation
  /-- Files of both layouts were found. -/
  | mixedLayouts
  /-- No locale file was found. -/
  | noFiles
  /-- The default locale has no text. -/
  | noEntries
  /-- A file of the default locale does not give keys and texts. -/
  | unreadableFile
  /-- A key occurs a second time. -/
  | duplicateKey
  /-- A build property has a value that its option does not take. -/
  | invalidOption
  /-- A fault ended the pass. -/
  | unexpectedFault
  deriving DecidableEq, Repr

namespace DiagnosticKind

/-- The stable code of the kind. -/
def id : DiagnosticKind → String
  | .invalidLocation => "TCB0001"
  | .mixedLayouts => "TCB0002"
  | .noFiles => "TCB0003"
  | .noEntries => "TCB0004"
  | .unreadableFile => "TCB0005"
  | .duplicateKey => "TCB0006"
  | .invalidOption => "TCB0007"
  | .unexpectedFault => "TCB0008"

/-- A short name for the problem. -/
def title : DiagnosticKind → String
  | .invalidLocation => "Invalid translation file path"
  | .mixedLayouts => "Mixed translation layouts"
  | .noFiles => "No translation file"
  | .noEntries => "No translation entries"
  | .unreadableFile => "Invalid translation file"
  | .duplicateKey => "Duplicate translation key"
  | .invalidOption => "Invalid project option"
  | .unexpectedFault => "Unhandled exception"

/-- A kind is a warning when the pass goes on after it. -/
def severity : DiagnosticKind → Severity
  | .duplicateKey | .invalidOption => .warning
  | _ => .error

/-- The message template of the kind. -/
def template : DiagnosticKind → Template
  | .invalidLocation =>
    [.text "The translation file '", .argument 0,
      .text ("' isn't in a supported location. Translation files must be either "
        ++ "'i18n/<locale>.json' or 'i18n/<locale>/<any name>.json'.")]
  | .mixedLayouts =>
    [.text ("The i18n folder can't contain both translation files and locale subfolders. Use "
        ++ "either 'i18n/<locale>.json' files or 'i18n/<locale>/' folders.")]
  | .noFiles =>
    [.text ("No translation files were found. Add an 'i18n/default.json' file or an "
        ++ "'i18n/default/' folder to the project.")]
  | .noEntries =>
    [.text "The default translation files don't contain any translations."]
  | .unreadableFile =>
    [.text "The translation file '", .argument 0, .text "' can't be read: ", .argument 1,
      .text "."]
  | .duplicateKey =>
    [.text "The translation key '", .argument 0, .text "' in '", .argument 1,
      .text "' was already defined by another default translation file, so this one is ignored."]
  | .invalidOption =>
    [.text "Project '", .argument 0,
      .text "' has an invalid value for the translation class builder '", .argument 1,
      .text "' option, so the default is used instead: ", .argument 2]
  | .unexpectedFault =>
    [.text "The translation class builder failed unexpectedly. Technical details: ",
      .argument 0]

end DiagnosticKind

/-- A reported problem: its kind and the arguments of its message. -/
structure Diagnostic where
  kind : DiagnosticKind
  arguments : List (Option Text)
  deriving DecidableEq, Repr

namespace Diagnostic

/-- Whether the problem kept a class from being generated. -/
def isError (d : Diagnostic) : Bool :=
  d.kind.severity == .error

/-- The message: the template of the kind with the arguments put in. -/
def message (d : Diagnostic) : Except Nat Text :=
  fill d.arguments d.kind.template

/-- The line that is shown: severity, code and message. -/
def render (d : Diagnostic) : Except Nat Text :=
  d.message.map ((d.kind.severity.name ++ " " ++ d.kind.id ++ ": " : String) ++ ·)

end Diagnostic

end Phrasebook
