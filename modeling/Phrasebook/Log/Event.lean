import Phrasebook.Diagnostic
import Phrasebook.Log.Level
import Phrasebook.Log.Value

/-!
# Events

* `Event` — what a pass or a command logs.
* `Event.name`, `Event.component`, `Event.level`, `Event.fields` — what is logged of it.
-/

namespace Phrasebook.Log

/-- What can be logged. -/
inductive Event where
  /-- An option has a value that it does not take. -/
  | invalidOption (option value : String)
  /-- A diagnostic was reported. -/
  | diagnosticReported (kind : DiagnosticKind)
  /-- A pass begins, with the namespace of the class. -/
  | passStarted (namespaceName : String)
  /-- A file fits neither layout. -/
  | invalidLocation (path : String)
  /-- A file does not fit the layout of the files before it. -/
  | mixedLayouts (path : String)
  /-- A file does not give keys and texts. -/
  | unreadableFile (path : String) (reason : Text)
  /-- A file of the default locale was read. -/
  | fileLoaded (path : String) (count : Nat)
  /-- No text was found. -/
  | nothingFound (kind : DiagnosticKind)
  /-- A pass ends with a diagnostic. -/
  | passAborted (kind : DiagnosticKind)
  /-- A pass ends with a class of so many entries. -/
  | passCompleted (count : Nat)
  /-- A pass ends with a fault. -/
  | passFailed
  /-- The locale files of a project were found. -/
  | filesDiscovered (project : String) (count : Nat)
  /-- The class was written to a file. -/
  | sourceWritten (path : String)
  /-- A class of an earlier run was removed. -/
  | staleSourceRemoved (path : String)
  deriving DecidableEq, Repr

namespace Event

/-- The name of the event. -/
def name : Event → String
  | .invalidOption .. => "invalid_project_option"
  | .diagnosticReported .. => "diagnostic_reported"
  | .passStarted .. => "generation_started"
  | .invalidLocation .. => "invalid_translation_file_path"
  | .mixedLayouts .. => "mixed_translation_layouts"
  | .unreadableFile .. => "invalid_translation_file"
  | .fileLoaded .. => "translation_file_loaded"
  | .nothingFound .. => "no_translations_found"
  | .passAborted .. => "generation_aborted"
  | .passCompleted .. => "generation_completed"
  | .passFailed => "generation_failed"
  | .filesDiscovered .. => "translation_files_discovered"
  | .sourceWritten .. => "generated_file_written"
  | .staleSourceRemoved .. => "stale_generated_file_removed"

/-- The part of the program that logs the event. -/
def component : Event → String
  | .invalidOption .. => "options"
  | .diagnosticReported .. => "diagnostics"
  | .invalidLocation .. | .mixedLayouts .. | .unreadableFile .. | .fileLoaded ..
  | .nothingFound .. => "reader"
  | .passStarted .. | .passAborted .. | .passCompleted .. | .passFailed => "generator"
  | .filesDiscovered .. | .sourceWritten .. | .staleSourceRemoved .. => "cli"

/-- The level of the event. -/
def level : Event → Level
  | .invalidOption .. | .invalidLocation .. | .mixedLayouts .. | .unreadableFile ..
  | .nothingFound .. | .passAborted .. => .warning
  | .passFailed => .error
  | _ => .info

/-- The fields that belong to the event. -/
def fields : Event → List (String × Value)
  | .invalidOption option value => [("option", .text option), ("value", .text value)]
  | .diagnosticReported kind =>
    [("diagnostic_id", .text kind.id), ("severity", .text kind.severity.name)]
  | .passStarted namespaceName => [("namespace", .text namespaceName)]
  | .invalidLocation path | .mixedLayouts path => [("path", .text path)]
  | .unreadableFile path reason => [("path", .text path), ("reason", .text reason)]
  | .fileLoaded path count => [("path", .text path), ("entry_count", .number count)]
  | .nothingFound kind | .passAborted kind => [("diagnostic_id", .text kind.id)]
  | .passCompleted count => [("entry_count", .number count)]
  | .passFailed => []
  | .filesDiscovered project count =>
    [("project_dir", .text project), ("file_count", .number count)]
  | .sourceWritten path | .staleSourceRemoved path => [("path", .text path)]

end Event

end Phrasebook.Log
