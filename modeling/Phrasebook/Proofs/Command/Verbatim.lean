import Phrasebook.Proofs.Command.Run
import Phrasebook.Proofs.Diagnostic.Format

/-!
# Messages with their arguments

What a pass reports was given by the project: paths, keys, values of properties and the words of
loaders, which may well have braces in them.  Its messages show them as they are:

* `diagnosticLines_runPass` — the lines that a run shows, one for each diagnostic of its pass;
* `messages_show_arguments` — no diagnostic lacks an argument, and none is read a second time.
-/

namespace Phrasebook

open Phrasebook.Text Phrasebook.Command

/-- The lines of diagnostics that have their arguments. -/
theorem filterMap_render {ds : List Diagnostic}
    (h : ∀ d ∈ ds, d.kind.arity ≤ d.arguments.length) :
    (ds.filterMap fun d => d.render.toOption.map shown) = ds.map fun d => shown d.line := by
  rw [← List.filterMap_eq_map]
  refine List.filterMap_congr fun d hd => ?_
  rw [Diagnostic.render_eq (h d hd)]
  rfl

/-- A run shows a line for each diagnostic of its pass, in their order. -/
theorem diagnosticLines_runPass (h : Host) (r : GenerateRequest) (project : Path) (place : Place)
    (properties : Bindings String String) (files : List String) :
    (runPass h r project place properties files).diagnosticLines =
      (generate (fun name => .ok (properties.get? name)) (h.loader place) files).diagnostics.map
        fun d => shown d.line :=
  filterMap_render fun _ hd => arity_le_of_mem_diagnostics hd

/-- **Messages show their arguments as they are.**

* Every diagnostic of a pass has an argument for each number in the template of its message.  The
  written template can be expanded and gives the text of the diagnostic, in which each number is
  replaced by the argument of this number and nothing is read again.  This is the message, and the
  line ends with it.
* A run with this pass shows these lines, one for each diagnostic, in their order. -/
theorem messages_show_arguments (s : Surroundings) (files : List String) :
    (∀ d ∈ (generateIn s files).diagnostics,
      (∀ n, .argument n ∈ d.kind.template → n < d.arguments.length) ∧
      expand d.arguments d.kind.template.format = .ok d.text ∧
      d.message = .ok d.text ∧ d.render = .ok d.line) ∧
    ∀ (h : Host) (r : GenerateRequest) (project : Path) (place : Place)
      (properties : Bindings String String),
      s = .steady (fun name => .ok (properties.get? name)) (h.loader place) →
      (runPass h r project place properties files).diagnosticLines =
        (generateIn s files).diagnostics.map fun d => shown d.line := by
  constructor
  · intro d hd
    have harity := arity_le_of_mem_diagnostics hd
    have hnumbers : ∀ n, .argument n ∈ d.kind.template → n < d.arguments.length := fun n hn =>
      Nat.lt_of_lt_of_le (DiagnosticKind.argument_mem_iff.mp hn) harity
    exact ⟨hnumbers, Diagnostic.expand_written harity, Diagnostic.message_eq harity,
      Diagnostic.render_eq harity⟩
  · intro h r project place properties hs
    subst hs
    exact diagnosticLines_runPass h r project place properties files

/-- A value that looks like a field and a placeholder. -/
def bracedValue : String := "\x7b0\x7d \x7b\x7bcount\x7d\x7d"

/-- A property that gives the class this value for its name. -/
def bracedName : Bindings String String :=
  (∅ : Bindings String String).set ClassOption.className.property bracedValue

/-- What is said about such a name. -/
def bracedReason : String :=
  ClassOption.className.explain bracedValue (.form identifierPattern)

/-- Such a name is shown with its braces, after a project that has no name. -/
theorem messages_show_arguments_braced :
    (generate (fun name => .ok (bracedName.get? name)) (redHost.loader ["p"]) []).diagnostics =
      [⟨.invalidOption, [none, some "ClassName", some bracedReason]⟩, ⟨.noFiles, []⟩] ∧
    expand [none, some "ClassName", some bracedReason]
        DiagnosticKind.invalidOption.template.format =
      .ok (ofString "Project '" ++ (ofString "None" ++
        (ofString "' has an invalid value for the translation class builder '" ++
          (ofString "ClassName" ++
            (ofString "' option, so the default is used instead: " ++ ofString bracedReason))))) ∧
    (runPass redHost ⟨["p"], none, [], false, true⟩ (.ofString "p") ["p"] bracedName
      []).diagnosticLines.length = 2 := by
  obtain ⟨hmessages, hrun⟩ := messages_show_arguments
    (.steady (fun name => .ok (bracedName.get? name)) (redHost.loader ["p"])) []
  have hreported : (generateIn (.steady (fun name => .ok (bracedName.get? name))
      (redHost.loader ["p"])) []).diagnostics =
      [⟨.invalidOption, [none, some "ClassName", some bracedReason]⟩, ⟨.noFiles, []⟩] := by
    rfl
  refine ⟨hreported, ?_, ?_⟩
  · obtain ⟨-, hexpand, -, -⟩ := hmessages _ (hreported ▸ List.mem_cons_self)
    rw [hexpand]
    simp [Diagnostic.text, DiagnosticKind.template, Piece.shown, showArgument]
  · rw [hrun redHost ⟨["p"], none, [], false, true⟩ (.ofString "p") ["p"] bracedName rfl,
      List.length_map, hreported]
    rfl

end Phrasebook
