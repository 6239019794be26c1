import Phrasebook.ClassSource.Section
import Phrasebook.Locale.Catalog

/-!
# A pass

A pass turns the build properties and the locale files of a project into the source of a class.

* `Generation` — the outcome of a pass.
* `Surroundings` — what a pass is answered.
* `passSteps` — the steps of a pass up to its end.
* `generateIn`, `generate` — the pass; it has an outcome whatever happens.
-/

namespace Phrasebook

open Phrasebook.Log Phrasebook.Naming Phrasebook.Text

/-- The outcome of a pass: the source, unless something went wrong, the name of the file for it,
unless the options could not be resolved, what was reported and logged, and the fault that ended
the pass, if one did. -/
structure Generation where
  output : Option Text
  hintName : Option String
  diagnostics : List Diagnostic
  records : List Record
  fault : Option Fault

namespace Generation

/-- Whether there is a source. -/
def isSuccess (g : Generation) : Bool :=
  g.output.isSome

/-- The diagnostics that are errors. -/
def errors (g : Generation) : List Diagnostic :=
  g.diagnostics.filter (·.isError)

end Generation

/-- The block of the log's context that a pass with these options goes on in. -/
def passBlock (o : ClassOptions) (files : List String) : Block :=
  ⟨some o.className, some files.length, []⟩

/-- The part of a pass after the options are known. -/
def generateWith (o : ClassOptions) (files : List String) (load : Nat → Loader) :
    Step (Option Text) := do
  Step.log (.passStarted o.namespaceName)
  match ← Catalog.readInTurn (reservedNames o.className) load files with
  | .error d =>
    Step.report d
    Step.log (.passAborted d.kind)
    return none
  | .ok catalog =>
    Step.reportAll catalog.warnings
    Step.log (.passCompleted catalog.entries.length)
    return some (ClassSource.source o catalog.entries)

/-- The end of a pass after a fault. -/
def reportFault (fault : Fault) : Step Unit := do
  Step.log .passFailed
  Step.report ⟨.unexpectedFault, [some (oneLine fault.describe)]⟩

/-- What a pass is answered: a property for each purpose, and in each turn the text of a file. -/
structure Surroundings where
  property : Answers
  file : Nat → Loader

/-- Properties and files that are the same whenever they are asked for. -/
def Surroundings.steady (properties : Properties) (load : Loader) : Surroundings :=
  ⟨properties.answers, fun _ => load⟩

/-- The steps of a pass up to its end: resolves the options, reads the files and writes the
source. -/
def passSteps (s : Surroundings) (files : List String) : Step (Option Text) := do
  let o ← resolveWith s.property
  Step.within (passBlock o files) (generateWith o files s.file)

/-- A pass.  A fault on the way is reported, like everything else, and leaves no source. -/
def generateIn (s : Surroundings) (files : List String) : Generation :=
  let pass := passSteps s files
  let hintName := (resolveWith s.property).ending.toOption.map (·.hintName)
  match pass.ending with
  | .ok output => ⟨output, hintName, pass.diagnostics, pass.records, none⟩
  | .error fault =>
    let failed := reportFault fault
    ⟨none, hintName, pass.diagnostics ++ failed.diagnostics, pass.records ++ failed.records,
      some fault⟩

/-- A pass over properties and files that are the same whenever they are asked for. -/
def generate (properties : Properties) (load : Loader) (files : List String) : Generation :=
  generateIn (.steady properties load) files

end Phrasebook
