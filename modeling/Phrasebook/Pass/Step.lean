import Phrasebook.Log.Record
import Phrasebook.Pass.Question

/-!
# Steps of a pass

A step reports diagnostics, logs events, asks questions and ends with a value or a fault.

* `Step` — what a step reported, logged and asked for, and how it ended.
* `Step.bind` — a step after another; a fault ends both.
* `Step.log`, `Step.report`, `Step.reportAll`, `Step.ask` — the elementary steps.
* `Step.within` — a step inside a block of the log's context.
-/

namespace Phrasebook

open Phrasebook.Log

/-- What a step reported and logged, the questions it asked, and how it ended. -/
structure Step (α : Type) where
  diagnostics : List Diagnostic
  records : List Record
  asked : List Question
  ending : Except Fault α

namespace Step

variable {α β : Type}

/-- Ends with a value at once. -/
def pure (a : α) : Step α := ⟨[], [], [], .ok a⟩

/-- One step after another, unless the first one ends with a fault. -/
def bind (s : Step α) (f : α → Step β) : Step β :=
  match s.ending with
  | .error fault => ⟨s.diagnostics, s.records, s.asked, .error fault⟩
  | .ok a =>
    let t := f a
    ⟨s.diagnostics ++ t.diagnostics, s.records ++ t.records, s.asked ++ t.asked, t.ending⟩

instance : Monad Step where
  pure := pure
  bind := bind

/-- Logs an event outside of any block. -/
def log (e : Event) : Step Unit := ⟨[], [⟨e, ∅⟩], [], .ok ()⟩

/-- Asks a question, and ends the way the answer says. -/
def ask (q : Question) (answer : Except Fault α) : Step α := ⟨[], [], [q], answer⟩

/-- Reports a diagnostic, and logs that it was reported. -/
def report (d : Diagnostic) : Step Unit :=
  ⟨[d], [⟨.diagnosticReported d.kind, ∅⟩], [], .ok ()⟩

/-- Reports several diagnostics in order. -/
def reportAll : List Diagnostic → Step Unit
  | [] => pure ()
  | d :: rest => (report d).bind fun _ => reportAll rest

/-- The step inside a block: what it logs has the names of the block in its context. -/
def within (b : Block) (s : Step α) : Step α :=
  { s with records := s.records.map fun r =>
      { r with context := (enter ∅ b).override r.context.toList } }

end Step

end Phrasebook
