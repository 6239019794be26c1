import Phrasebook.Diagnostic
import Phrasebook.Proofs.Text.SingleLine

/-!
# Diagnostics can be shown

A template is filled when there is an argument for each number in it, and what it says itself stays
on one line:

* `Piece.shown`, `fill_eq_flatMap`, `singleLine_fill_iff` — for any template;
* `DiagnosticKind.arity`, `DiagnosticKind.argument_mem_iff` — which arguments a kind takes;
* `Diagnostic.text`, `Diagnostic.line`, `Diagnostic.render_eq` — what a diagnostic with so many
  arguments comes to;
* `Diagnostic.singleLine_render_iff` — its line is a single one exactly when no argument breaks it.
-/

namespace Phrasebook

open Phrasebook.Text

/-- How a piece is shown: text as it stands, and a number as the argument of this number. -/
def Piece.shown (arguments : List (Option Text)) : Piece → Text
  | .text s => s
  | .argument n => (arguments[n]?.map showArgument).getD []

/-- With an argument for each number, the pieces are put in a row. -/
theorem fill_eq_flatMap {arguments : List (Option Text)} {t : Template}
    (h : ∀ n, .argument n ∈ t → n < arguments.length) :
    fill arguments t = .ok (t.flatMap (Piece.shown arguments)) := by
  induction t with
  | nil => rfl
  | cons piece rest ih =>
    have hrest := ih fun n hn => h n (List.mem_cons_of_mem _ hn)
    rw [List.flatMap_cons]
    cases piece with
    | text s =>
      rw [fill, hrest]
      rfl
    | argument n =>
      have hn := List.getElem?_eq_getElem (h n List.mem_cons_self)
      rw [fill, hn, hrest, Piece.shown, hn]
      rfl

/-- How many arguments the message of a kind takes. -/
def DiagnosticKind.arity : DiagnosticKind → Nat
  | .mixedLayouts | .noFiles | .noEntries => 0
  | .invalidLocation | .unexpectedFault => 1
  | .unreadableFile | .duplicateKey => 2
  | .invalidOption => 3

/-- A kind takes the first so many arguments, and no others. -/
theorem DiagnosticKind.argument_mem_iff {kind : DiagnosticKind} {n : Nat} :
    .argument n ∈ kind.template ↔ n < kind.arity := by
  cases kind <;> simp [template, arity] <;> omega

/-- The message of a diagnostic, with the arguments in their places. -/
def Diagnostic.text (d : Diagnostic) : Text :=
  d.kind.template.flatMap (Piece.shown d.arguments)

/-- The line of a diagnostic: severity, code and message. -/
def Diagnostic.line (d : Diagnostic) : Text :=
  ofString (d.kind.severity.name ++ " " ++ d.kind.id ++ ": ") ++ d.text

theorem Diagnostic.message_eq {d : Diagnostic} (h : d.kind.arity ≤ d.arguments.length) :
    d.message = .ok d.text :=
  fill_eq_flatMap fun _ hn => Nat.lt_of_lt_of_le (DiagnosticKind.argument_mem_iff.mp hn) h

/-- **A diagnostic with enough arguments has a line.** -/
theorem Diagnostic.render_eq {d : Diagnostic} (h : d.kind.arity ≤ d.arguments.length) :
    d.render = .ok d.line := by
  rw [render, message_eq h]
  rfl

/-! ### Diagnostics on a single line -/

/-- A filled template is on a single line exactly when its pieces are. -/
theorem singleLine_fill_iff {arguments : List (Option Text)} {t : Template} {text : Text}
    (h : fill arguments t = .ok text) :
    SingleLine text ↔ (∀ s, .text s ∈ t → SingleLine (ofString s)) ∧
      ∀ n a, .argument n ∈ t → arguments[n]? = some a → SingleLine (showArgument a) := by
  induction t generalizing text with
  | nil =>
    rw [fill, Except.ok.injEq] at h
    rw [← h]
    exact iff_of_true singleLine_nil
      ⟨fun s hs => absurd hs List.not_mem_nil, fun n a hn => absurd hn List.not_mem_nil⟩
  | cons piece rest ih =>
    cases piece with
    | text s =>
      rw [fill] at h
      cases hrest : fill arguments rest with
      | error n => exact absurd h (by simp [hrest, Except.map])
      | ok tail =>
        rw [hrest, Except.map, Except.ok.injEq] at h
        rw [← h, singleLine_append, ih hrest]
        simp only [List.mem_cons, Piece.text.injEq, reduceCtorEq, false_or, forall_eq_or_imp,
          and_assoc]
    | argument m =>
      rw [fill] at h
      cases hm : arguments[m]? with
      | none => exact absurd h (by simp [hm])
      | some a =>
        rw [hm] at h
        cases hrest : fill arguments rest with
        | error n => exact absurd h (by simp [hrest, Except.map])
        | ok tail =>
          simp only [hrest, Except.map, Except.ok.injEq] at h
          rw [← h, singleLine_append, ih hrest]
          simp only [List.mem_cons, Piece.argument.injEq, reduceCtorEq, false_or]
          constructor
          · rintro ⟨ha, htexts, hargs⟩
            refine ⟨htexts, fun n b hn hb => ?_⟩
            obtain rfl | hn := hn
            · rw [hm, Option.some.injEq] at hb
              exact hb ▸ ha
            · exact hargs n b hn hb
          · rintro ⟨htexts, hargs⟩
            exact ⟨hargs m a (.inl rfl) hm, htexts, fun n b hn hb => hargs n b (.inr hn) hb⟩

/-- No template has a line end in what it says itself. -/
theorem DiagnosticKind.singleLine_template (kind : DiagnosticKind) :
    ∀ s, .text s ∈ kind.template → SingleLine (ofString s) := by
  cases kind
  all_goals
    simp only [template, List.mem_cons, Piece.text.injEq, reduceCtorEq, List.not_mem_nil, or_false,
      false_or, forall_eq_or_imp, forall_eq, singleLine_ofString_append]
    and_intros
    all_goals exact singleLine_ofList (by decide)

/-- Neither is there one in what stands in front of the message. -/
theorem DiagnosticKind.singleLine_head (kind : DiagnosticKind) :
    SingleLine (ofString (kind.severity.name ++ " " ++ kind.id ++ ": ")) := by
  simp only [singleLine_ofString_append]
  cases kind
  all_goals
    and_intros
    all_goals exact singleLine_ofList (by decide)

/-- **A diagnostic is on a single line** exactly when each argument that its kind takes is. -/
theorem Diagnostic.singleLine_render_iff {d : Diagnostic} {line : Text} (h : d.render = .ok line) :
    SingleLine line ↔ ∀ t, some t ∈ d.arguments.take d.kind.arity → SingleLine t := by
  rw [render] at h
  cases hmessage : d.message with
  | error n => exact absurd h (by simp [hmessage, Except.map])
  | ok text =>
    rw [hmessage, Except.map, Except.ok.injEq] at h
    rw [← h, singleLine_append, singleLine_fill_iff hmessage]
    have hnone : SingleLine (showArgument none) := by decide
    constructor
    · rintro ⟨-, -, hargs⟩ t ht
      obtain ⟨n, hn, hget⟩ := List.getElem_of_mem ht
      rw [List.length_take, Nat.lt_min] at hn
      rw [List.getElem_take] at hget
      refine hargs n (some t) (DiagnosticKind.argument_mem_iff.mpr hn.1) ?_
      rw [← hget]
      exact List.getElem?_eq_getElem hn.2
    · intro hall
      refine ⟨d.kind.singleLine_head, d.kind.singleLine_template, fun n a hn ha => ?_⟩
      cases a with
      | none => exact hnone
      | some t =>
        have htake : (d.arguments.take d.kind.arity)[n]? = some (some t) := by
          rw [List.getElem?_take_of_lt (DiagnosticKind.argument_mem_iff.mp hn), ha]
        exact hall t (List.mem_of_getElem? htake)

end Phrasebook
