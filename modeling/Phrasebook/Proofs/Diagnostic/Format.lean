import Phrasebook.Proofs.Diagnostic

/-!
# Written templates

A template is written down as one string, in which the number of an argument stands between braces.
Here such a string is read from left to right, and each field is replaced on the way; what is put in
for a field is not read again.

* `Reading`, `expandFrom`, `expand` — the reader, with what it makes of braces that open no field;
* `expandFrom_ordinary`, `expandFrom_field` — how it goes over text and over a field;
* `expand_format` — a template without further braces comes to the same in writing and by pieces;
* `DiagnosticKind.ordinary_template` — the templates of all messages are such templates.
-/

namespace Phrasebook

open Phrasebook.Text

/-- What a reader of a written template is in the middle of. -/
inductive Reading where
  /-- Text that stands as it is. -/
  | outside
  /-- A brace that may open a field. -/
  | opened
  /-- A field with this number so far. -/
  | field (n : Nat)
  /-- A brace that closes no field. -/
  | closed

/-- Why a written template cannot be expanded. -/
inductive FormatFault where
  /-- There is no argument of this number. -/
  | missing (n : Nat)
  /-- A brace stands alone, or something else than a number is between two of them. -/
  | malformed
  deriving DecidableEq, Repr

/-- Reads a written template.  Two braces in a row are one, and a number between braces is the
argument of this number. -/
def expandFrom (arguments : List (Option Text)) : Reading → List Char → Except FormatFault Text
  | .outside, [] => .ok []
  | _, [] => .error .malformed
  | .outside, c :: rest =>
    if c = '\x7b' then expandFrom arguments .opened rest
    else if c = '\x7d' then expandFrom arguments .closed rest
    else (expandFrom arguments .outside rest).map (.char c :: ·)
  | .opened, c :: rest =>
    if c = '\x7b' then (expandFrom arguments .outside rest).map (.char c :: ·)
    else if c.isDigit then expandFrom arguments (.field (c.toNat - '0'.toNat)) rest
    else .error .malformed
  | .field n, c :: rest =>
    if c.isDigit then expandFrom arguments (.field (10 * n + (c.toNat - '0'.toNat))) rest
    else if c = '\x7d' then
      match arguments[n]? with
      | none => .error (.missing n)
      | some a => (expandFrom arguments .outside rest).map (showArgument a ++ ·)
    else .error .malformed
  | .closed, c :: rest =>
    if c = '\x7d' then (expandFrom arguments .outside rest).map (.char c :: ·)
    else .error .malformed

/-- A written template with its arguments put in. -/
def expand (arguments : List (Option Text)) (written : String) : Except FormatFault Text :=
  expandFrom arguments .outside written.toList

variable {arguments : List (Option Text)}

/-! ### Text and fields -/

/-- Text without braces. -/
def Ordinary (s : List Char) : Prop :=
  ∀ c ∈ s, c ≠ '\x7b' ∧ c ≠ '\x7d'

/-- Text without braces stands for itself. -/
theorem expandFrom_ordinary {s : List Char} (h : Ordinary s) (rest : List Char) :
    expandFrom arguments .outside (s ++ rest) =
      (expandFrom arguments .outside rest).map (ofChars s ++ ·) := by
  induction s with
  | nil =>
    rw [List.nil_append]
    cases expandFrom arguments .outside rest <;> rfl
  | cons c s ih =>
    obtain ⟨⟨hopen, hclose⟩, hs⟩ := List.forall_mem_cons.mp h
    rw [List.cons_append, expandFrom, if_neg hopen, if_neg hclose, ih hs]
    cases expandFrom arguments .outside rest <;> rfl

/-- Digits go on with the number of a field. -/
theorem expandFrom_digits {digits : List Char} (h : ∀ c ∈ digits, c.isDigit = true) (n : Nat)
    (rest : List Char) :
    expandFrom arguments (.field n) (digits ++ rest) =
      expandFrom arguments (.field (Nat.ofDigitChars 10 digits n)) rest := by
  induction digits generalizing n with
  | nil => rfl
  | cons c digits ih =>
    obtain ⟨hc, hdigits⟩ := List.forall_mem_cons.mp h
    rw [List.cons_append, expandFrom, if_pos hc, ih hdigits, Nat.ofDigitChars_cons]

/-- A field is replaced by its argument. -/
theorem expandFrom_field (n : Nat) (rest : List Char) :
    expandFrom arguments .outside ('\x7b' :: (Nat.toDigits 10 n ++ '\x7d' :: rest)) =
      match arguments[n]? with
      | none => .error (.missing n)
      | some a => (expandFrom arguments .outside rest).map (showArgument a ++ ·) := by
  have hdigits : ∀ c ∈ Nat.toDigits 10 n, c.isDigit = true := fun c =>
    Nat.isDigit_of_mem_toDigits (by omega) (by omega)
  have hnumber : Nat.ofDigitChars 10 (Nat.toDigits 10 n) 0 = n := Nat.ofDigitChars_ten_toDigits
  rw [expandFrom, if_pos rfl]
  cases hn : Nat.toDigits 10 n with
  | nil => exact absurd hn Nat.toDigits_ne_nil
  | cons d digits =>
    rw [hn] at hdigits hnumber
    obtain ⟨hd, hrest⟩ := List.forall_mem_cons.mp hdigits
    have hbrace : d ≠ '\x7b' := by
      intro h
      rw [h] at hd
      exact absurd hd (by decide)
    rw [Nat.ofDigitChars_cons, Nat.mul_zero, Nat.zero_add] at hnumber
    rw [List.cons_append, expandFrom, if_neg hbrace, if_pos hd, expandFrom_digits hrest, hnumber,
      expandFrom, if_neg (by decide), if_pos rfl]

/-! ### Templates -/

/-- How a piece is written down. -/
def Piece.written : Piece → List Char
  | .text s => s.toList
  | .argument n => '\x7b' :: (Nat.toDigits 10 n ++ ['\x7d'])

theorem toList_format (t : Template) : t.format.toList = t.flatMap Piece.written := by
  rw [Template.format, String.toList_join, List.flatMap_map]
  refine congrArg t.flatMap (funext fun piece => ?_)
  cases piece with
  | text s => rfl
  | argument n =>
    show ("\x7b" ++ toString n ++ "\x7d").toList = _
    rw [String.toList_append, String.toList_append, Nat.toString_eq_repr, Nat.toList_repr]
    rfl

/-- **A written template** whose texts have no braces is expanded to what its pieces come to, and
what keeps it from this is an argument that there is not. -/
theorem expand_format {t : Template} (h : ∀ s, .text s ∈ t → Ordinary s.toList) :
    expand arguments t.format = (fill arguments t).mapError .missing := by
  rw [expand, toList_format]
  induction t with
  | nil => rfl
  | cons piece rest ih =>
    have hrest := ih fun s hs => h s (List.mem_cons_of_mem _ hs)
    rw [List.flatMap_cons]
    cases piece with
    | text s =>
      rw [Piece.written, expandFrom_ordinary (h s List.mem_cons_self), hrest, fill]
      cases fill arguments rest <;> rfl
    | argument n =>
      rw [Piece.written, List.cons_append, List.append_assoc, List.singleton_append,
        expandFrom_field, hrest, fill]
      cases arguments[n]? with
      | none => rfl
      | some a => cases fill arguments rest <;> rfl

/-- An argument that looks like a field is none. -/
example : expand [some (ofString "\x7b1\x7d"), none] "\x7b0\x7d \x7b1\x7d" =
    .ok (ofString "\x7b1\x7d None") := by
  decide

/-! ### The templates of messages -/

theorem ordinary_append {s t : List Char} : Ordinary (s ++ t) ↔ Ordinary s ∧ Ordinary t :=
  List.forall_mem_append

/-- For a string that is written out, its characters decide. -/
theorem ordinary_ofList {s : List Char} (h : (s.all fun c => c != '\x7b' && c != '\x7d') = true) :
    Ordinary (String.ofList s).toList := by
  rw [String.toList_ofList]
  intro c hc
  have hin := List.all_eq_true.mp h c hc
  rwa [Bool.and_eq_true, bne_iff_ne, bne_iff_ne] at hin

/-- No template has a brace in what it says itself. -/
theorem DiagnosticKind.ordinary_template (kind : DiagnosticKind) :
    ∀ s, .text s ∈ kind.template → Ordinary s.toList := by
  cases kind
  all_goals
    simp only [template, List.mem_cons, Piece.text.injEq, reduceCtorEq, List.not_mem_nil, or_false,
      false_or, forall_eq_or_imp, forall_eq, String.toList_append, ordinary_append]
    and_intros
    all_goals exact ordinary_ofList (by decide)

/-- The message of a diagnostic with enough arguments, from its written template. -/
theorem Diagnostic.expand_written {d : Diagnostic} (h : d.kind.arity ≤ d.arguments.length) :
    expand d.arguments d.kind.template.format = .ok d.text := by
  have hmessage : fill d.arguments d.kind.template = .ok d.text := message_eq h
  rw [expand_format d.kind.ordinary_template, hmessage]
  rfl

end Phrasebook
