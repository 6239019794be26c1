import Phrasebook.Proofs.Diagnostic
import Phrasebook.Proofs.Locale.Occurrence
import Phrasebook.Proofs.Pass.Fault

/-!
# The shape of an outcome

Whatever a pass is answered, its outcome has the same shape: warnings about options, warnings
about keys, and at most one error at the end.

* `IsOptionWarning`, `WarnsOf` — warnings about options, in the order of the options;
* `Catalog.Refusal`, `Catalog.refusal_of_readFrom` — what a reading without a catalog ends with;
* `passSteps_cases`, `generateIn_cases` — the three ways in which a pass can end;
* `generateIn_shape` — the shape.
-/

namespace Phrasebook

open Phrasebook.Naming Phrasebook.Text

/-! ### Warnings about options -/

/-- A diagnostic is a warning that the option does not take its value. -/
def IsOptionWarning (o : ClassOption) (d : Diagnostic) : Prop :=
  ∃ assembly raw defect,
    d = ⟨.invalidOption, [assembly, some o.name, some (o.explain raw defect)]⟩

/-- The diagnostics are warnings about some of the options, in their order. -/
def WarnsOf (options : List ClassOption) (ds : List Diagnostic) : Prop :=
  ∃ reported : List ClassOption, reported.Sublist options ∧ List.Forall₂ IsOptionWarning reported ds

theorem warnsOf_nil (options : List ClassOption) : WarnsOf options [] :=
  ⟨[], List.nil_sublist options, .nil⟩

theorem WarnsOf.append {options others : List ClassOption} {ds es : List Diagnostic}
    (h : WarnsOf options ds) (h' : WarnsOf others es) : WarnsOf (options ++ others) (ds ++ es) := by
  obtain ⟨reported, hreported, hds⟩ := h
  obtain ⟨reported', hreported', hes⟩ := h'
  exact ⟨reported ++ reported', hreported.append hreported', List.rel_append hds hes⟩

/-- What two steps report. -/
theorem WarnsOf.bind {α β : Type} {options others : List ClassOption} {p : Step α} {f : α → Step β}
    (hp : WarnsOf options p.diagnostics) (hf : ∀ a, WarnsOf others (f a).diagnostics) :
    WarnsOf (options ++ others) (p >>= f).diagnostics := by
  cases hending : p.ending with
  | error fault =>
    rw [Step.bind_of_error hending, ← List.append_nil p.diagnostics]
    exact hp.append (warnsOf_nil others)
  | ok a =>
    rw [Step.bind_of_ok hending]
    exact hp.append (hf a)

variable (answers : Answers)

/-- Asking for a property reports nothing. -/
theorem WarnsOf.consult_bind {α : Type} {options : List ClassOption} (purpose : Purpose)
    {f : Option String → Step α} (hf : ∀ value, WarnsOf options (f value).diagnostics) :
    WarnsOf options (consult answers purpose >>= f).diagnostics :=
  WarnsOf.bind (p := consult answers purpose) (warnsOf_nil []) hf

theorem warnsOf_readOption (o : ClassOption) : WarnsOf [o] (readOption answers o).diagnostics := by
  refine WarnsOf.consult_bind answers _ fun given => ?_
  split
  · exact warnsOf_nil _
  · rename_i raw _
    split
    · exact warnsOf_nil _
    · rename_i defect _
      rw [Step.diagnostics_log_bind]
      refine WarnsOf.consult_bind answers _ fun assembly => ?_
      exact ⟨[o], List.Sublist.refl _, .cons ⟨_, raw, defect, rfl⟩ .nil⟩

theorem warnsOf_resolveNamespace :
    WarnsOf [.namespaceName] (resolveNamespace answers).diagnostics := by
  refine WarnsOf.bind (warnsOf_readOption answers .namespaceName) fun given => ?_
  split
  · exact warnsOf_nil []
  · refine WarnsOf.consult_bind answers _ fun root => ?_
    split
    · exact warnsOf_nil []
    · exact WarnsOf.consult_bind answers _ fun assembly => warnsOf_nil []

/-- **Resolving the options** reports nothing but warnings about them, in their order. -/
theorem warnsOf_resolveWith :
    WarnsOf [.namespaceName, .className, .modifiers] (resolveWith answers).diagnostics :=
  WarnsOf.bind (warnsOf_resolveNamespace answers) fun _ =>
    WarnsOf.bind (warnsOf_readOption answers .className) fun _ =>
      WarnsOf.bind (warnsOf_readOption answers .modifiers) fun _ => warnsOf_nil []

/-! ### The reading -/

namespace Catalog

variable (reserved : List String) (load : Nat → Loader) (files : List String)

/-- A reading reports nothing. -/
theorem diagnostics_readFrom :
    ∀ p turn, (readFrom reserved load p turn files).diagnostics = [] := by
  induction files with
  | nil =>
    intro p turn
    rw [readFrom]
    by_cases hentries : p.entries = []
    · rw [(finish_of_nil hentries).diagnostics, Step.diagnostics_pure]
    · rw [(finish_of_ne_nil hentries).diagnostics, Step.diagnostics_pure]
  | cons path rest ih =>
    intro p turn
    cases fileStep reserved load p turn path rest with
    | foreign _ hstep | otherLayout _ _ hstep | defect _ _ _ _ hstep =>
      rw [hstep.diagnostics, Step.diagnostics_pure]
    | fault _ _ _ _ hstep => rw [hstep.diagnostics, Step.diagnostics_ask]
    | otherLocale _ _ _ hstep | pairs _ _ _ _ hstep => rw [hstep.diagnostics, ih]

theorem diagnostics_readInTurn : (readInTurn reserved load files).diagnostics = [] :=
  diagnostics_readFrom reserved load files .initial 0

/-- The diagnostics that a reading ends with. -/
inductive Refusal : Diagnostic → Prop
  | location (path : String) : Refusal ⟨.invalidLocation, [some path]⟩
  | layouts : Refusal ⟨.mixedLayouts, []⟩
  | content (path : String) (reason : Text) : Refusal ⟨.unreadableFile, [some path, some reason]⟩
  | noEntries : Refusal ⟨.noEntries, []⟩
  | noFiles : Refusal ⟨.noFiles, []⟩

theorem Refusal.isError {d : Diagnostic} (h : Refusal d) : d.isError = true := by
  cases h <;> rfl

theorem Refusal.kind_ne {d : Diagnostic} (h : Refusal d) : d.kind ≠ .unexpectedFault := by
  cases h <;> simp

theorem Refusal.arity_le {d : Diagnostic} (h : Refusal d) : d.kind.arity ≤ d.arguments.length := by
  cases h <;> exact Nat.le_refl _

/-- A reading that is given up ends with the diagnostic that it is given up with. -/
theorem eq_of_ending_refused {given d : Diagnostic} {step : Step (Except Diagnostic Catalog)}
    (hstep : step.ending = (pure (.error given) : Step (Except Diagnostic Catalog)).ending)
    (h : step.ending = .ok (.error d)) : d = given := by
  rw [hstep, Step.ending_pure, Except.ok.injEq, Except.error.injEq] at h
  exact h.symm

/-- A reading that gives no catalog ends with one of these diagnostics. -/
theorem refusal_of_readFrom {d : Diagnostic} :
    ∀ p turn, (readFrom reserved load p turn files).ending = .ok (.error d) →
      Refusal d := by
  induction files with
  | nil =>
    intro p turn h
    rw [readFrom] at h
    by_cases hentries : p.entries = []
    · rw [eq_of_ending_refused (finish_of_nil hentries).ending h]
      cases p.layout.isSome with
      | true => exact .noEntries
      | false => exact .noFiles
    · rw [(finish_of_ne_nil hentries).ending, Step.ending_pure] at h
      exact absurd h (by simp)
  | cons path rest ih =>
    intro p turn h
    cases fileStep reserved load p turn path rest with
    | foreign _ hstep =>
      rw [eq_of_ending_refused hstep.ending h]
      exact .location path
    | otherLayout _ _ hstep =>
      rw [eq_of_ending_refused hstep.ending h]
      exact .layouts
    | fault _ _ _ _ hstep =>
      rw [hstep.ending, Step.ending_ask] at h
      exact absurd h (by simp)
    | defect _ _ _ _ hstep =>
      rw [eq_of_ending_refused hstep.ending h]
      exact .content _ _
    | otherLocale _ _ _ hstep | pairs _ _ _ _ hstep => exact ih _ _ (hstep.ending ▸ h)

end Catalog

/-! ### How a pass ends -/

/-- The error that reports a fault. -/
def faultDiagnostic (fault : Fault) : Diagnostic :=
  ⟨.unexpectedFault, [some (oneLine fault.describe)]⟩

/-- **How the part after the options ends**: with a fault, and without a report; with nothing, and
the report of what the reading ended with; or with a source, and a report for each key that occurs
again. -/
theorem generateWith_cases (o : ClassOptions) (files : List String) (load : Nat → Loader) :
    (∃ fault, (generateWith o files load).ending = .error fault ∧
      (generateWith o files load).diagnostics = []) ∨
    (∃ d, Catalog.Refusal d ∧ (generateWith o files load).ending = .ok none ∧
      (generateWith o files load).diagnostics = [d]) ∨
    (∃ out, (generateWith o files load).ending = .ok (some out) ∧
      (generateWith o files load).diagnostics =
        (repeats (pairsInTurn load 0 files)).map repeatWarning) := by
  have hnothing := Catalog.diagnostics_readInTurn (reservedNames o.className) load files
  rw [generateWith, Step.ending_log_bind, Step.diagnostics_log_bind]
  cases hread : (Catalog.readInTurn (reservedNames o.className) load files).ending with
  | error fault =>
    rw [Step.bind_of_error hread, hnothing]
    exact .inl ⟨fault, rfl, rfl⟩
  | ok result =>
    rw [Step.bind_of_ok hread, hnothing]
    cases result with
    | error d =>
      exact .inr (.inl ⟨d, Catalog.refusal_of_readFrom _ load files .initial 0 hread, rfl, rfl⟩)
    | ok catalog =>
      have hreport := Step.ending_reportAll catalog.warnings
      refine .inr (.inr ⟨ClassSource.source o catalog.entries, ?_, ?_⟩)
      · exact Step.ending_bind_of_ok hreport _
      · rw [← (Catalog.readInTurn_contents hread).2, List.nil_append]
        show (Step.reportAll catalog.warnings >>= _).diagnostics = _
        rw [Step.bind_of_ok hreport, Step.diagnostics_reportAll]
        exact List.append_nil _

/-- **How a pass ends**, with the same three endings behind the warnings about options. -/
theorem passSteps_cases (s : Surroundings) (files : List String) :
    ∃ warnings, WarnsOf [.namespaceName, .className, .modifiers] warnings ∧
    ((∃ fault, (passSteps s files).ending = .error fault ∧
      (passSteps s files).diagnostics = warnings) ∨
    (∃ d, Catalog.Refusal d ∧ (passSteps s files).ending = .ok none ∧
      (passSteps s files).diagnostics = warnings ++ [d]) ∨
    (∃ out, (passSteps s files).ending = .ok (some out) ∧
      (passSteps s files).diagnostics =
        warnings ++ (repeats (pairsInTurn s.file 0 files)).map repeatWarning)) := by
  refine ⟨(resolveWith s.property).diagnostics, warnsOf_resolveWith s.property, ?_⟩
  unfold passSteps
  cases hresolve : (resolveWith s.property).ending with
  | error fault =>
    rw [Step.bind_of_error hresolve]
    exact .inl ⟨fault, rfl, rfl⟩
  | ok o =>
    rw [Step.bind_of_ok hresolve, Step.ending_within, Step.diagnostics_within]
    obtain ⟨fault, hending, hreports⟩ | ⟨d, hrefusal, hending, hreports⟩ |
      ⟨out, hending, hreports⟩ := generateWith_cases o files s.file
    · rw [hending, hreports, List.append_nil]
      exact .inl ⟨fault, rfl, rfl⟩
    · rw [hending, hreports]
      exact .inr (.inl ⟨d, hrefusal, rfl, rfl⟩)
    · rw [hending, hreports]
      exact .inr (.inr ⟨out, rfl, rfl⟩)

variable {s : Surroundings} {files : List String}

theorem generateIn_of_ok {output : Option Text} (h : (passSteps s files).ending = .ok output) :
    (generateIn s files).output = output ∧
      (generateIn s files).diagnostics = (passSteps s files).diagnostics := by
  unfold generateIn
  simp only [h]
  exact ⟨trivial, trivial⟩

/-- A fault becomes the last diagnostic. -/
theorem generateIn_of_error {fault : Fault} (h : (passSteps s files).ending = .error fault) :
    (generateIn s files).output = none ∧
      (generateIn s files).diagnostics =
        (passSteps s files).diagnostics ++ [faultDiagnostic fault] := by
  unfold generateIn
  simp only [h]
  exact ⟨trivial, rfl⟩

/-! ### The shape -/

/-- Every warning about options is about some option. -/
theorem WarnsOf.exists_option {options : List ClassOption} {ds : List Diagnostic}
    (h : WarnsOf options ds) : ∀ d ∈ ds, ∃ o, IsOptionWarning o d := by
  obtain ⟨reported, -, hall⟩ := h
  induction hall with
  | nil => exact fun d hd => absurd hd List.not_mem_nil
  | cons hwarning _ ih => exact List.forall_mem_cons.mpr ⟨⟨_, hwarning⟩, ih⟩

/-- Warnings about options are of a kind of their own. -/
theorem WarnsOf.kind {options : List ClassOption} {ds : List Diagnostic} (h : WarnsOf options ds) :
    ∀ d ∈ ds, d.kind = .invalidOption := by
  intro d hd
  obtain ⟨o, assembly, raw, defect, rfl⟩ := h.exists_option d hd
  rfl

/-- The warnings about keys of an outcome: there are none where there is no source. -/
def keyWarnings (s : Surroundings) (files : List String) : List Diagnostic :=
  if (generateIn s files).output.isSome then
    (repeats (pairsInTurn s.file 0 files)).map repeatWarning
  else []

theorem keyWarnings_kind {d : Diagnostic} (h : d ∈ keyWarnings s files) :
    d.kind = .duplicateKey ∧ (generateIn s files).output.isSome = true := by
  unfold keyWarnings at h
  split at h
  · rename_i hsome
    obtain ⟨triple, -, rfl⟩ := List.mem_map.mp h
    exact ⟨rfl, hsome⟩
  · exact absurd h List.not_mem_nil

/-- The errors of an outcome are those at its end. -/
theorem errors_of_diagnostics {warnings errors : List Diagnostic} {g : Generation}
    (hsplit : g.diagnostics = warnings ++ errors) (hwarnings : ∀ d ∈ warnings, d.isError = false)
    (herrors : ∀ d ∈ errors, d.isError = true) : g.errors = errors := by
  rw [Generation.errors, hsplit, List.filter_append, List.filter_eq_self.mpr herrors,
    List.filter_eq_nil_iff.mpr fun d hd => by rw [hwarnings d hd]; exact Bool.false_ne_true,
    List.nil_append]

/-- **What an outcome reports**: warnings about options, then those about keys, and then an error
where there is no source: the diagnostic of a fault, or the one that the reading ended with. -/
theorem generateIn_cases (s : Surroundings) (files : List String) :
    (∃ warnings, WarnsOf [.namespaceName, .className, .modifiers] warnings ∧
      (generateIn s files).diagnostics =
        warnings ++ (keyWarnings s files ++ (generateIn s files).errors)) ∧
    ((∃ fault, (passSteps s files).ending = .error fault ∧ (generateIn s files).output = none ∧
        (generateIn s files).errors = [faultDiagnostic fault]) ∨
      (∃ d, (passSteps s files).ending = .ok none ∧ (generateIn s files).output = none ∧
        (generateIn s files).errors = [d] ∧ Catalog.Refusal d) ∨
      (∃ out, (passSteps s files).ending = .ok (some out) ∧
        (generateIn s files).output = some out ∧ (generateIn s files).errors = [])) := by
  obtain ⟨warnings, hwarns, hcases⟩ := passSteps_cases s files
  have hwarnings : ∀ d ∈ warnings ++ keyWarnings s files, d.isError = false := by
    intro d hd
    rcases List.mem_append.mp hd with hd | hd
    · rw [Diagnostic.isError, hwarns.kind d hd]
      decide
    · rw [Diagnostic.isError, (keyWarnings_kind hd).1]
      decide
  have hreported : ∀ errors,
      (generateIn s files).diagnostics = warnings ++ keyWarnings s files ++ errors →
      (∀ d ∈ errors, d.isError = true) → (generateIn s files).errors = errors ∧
        ∃ warnings, WarnsOf [.namespaceName, .className, .modifiers] warnings ∧
          (generateIn s files).diagnostics =
            warnings ++ (keyWarnings s files ++ (generateIn s files).errors) := by
    intro errors hsplit herrors
    have hlast := errors_of_diagnostics hsplit hwarnings herrors
    refine ⟨hlast, warnings, hwarns, ?_⟩
    rw [hlast, hsplit, List.append_assoc]
  obtain ⟨fault, hending, hreports⟩ | ⟨d, hrefusal, hending, hreports⟩ | ⟨out, hending, hreports⟩ :=
    hcases
  · obtain ⟨houtput, hdiagnostics⟩ := generateIn_of_error hending
    obtain ⟨herrors, hshape⟩ := hreported [faultDiagnostic fault]
      (by
        rw [hdiagnostics, hreports, keyWarnings, houtput]
        exact congrArg (· ++ _) (List.append_nil _).symm)
      (List.forall_mem_singleton.mpr rfl)
    exact ⟨hshape, .inl ⟨fault, hending, houtput, herrors⟩⟩
  · obtain ⟨houtput, hdiagnostics⟩ := generateIn_of_ok hending
    obtain ⟨herrors, hshape⟩ := hreported [d]
      (by
        rw [hdiagnostics, hreports, keyWarnings, houtput]
        exact congrArg (· ++ _) (List.append_nil _).symm)
      (List.forall_mem_singleton.mpr hrefusal.isError)
    exact ⟨hshape, .inr (.inl ⟨d, hending, houtput, herrors, hrefusal⟩)⟩
  · obtain ⟨houtput, hdiagnostics⟩ := generateIn_of_ok hending
    obtain ⟨herrors, hshape⟩ := hreported []
      (by
        rw [hdiagnostics, hreports, keyWarnings, houtput]
        exact (List.append_nil _).symm)
      (List.forall_mem_nil _)
    exact ⟨hshape, .inr (.inr ⟨out, hending, houtput, herrors⟩)⟩

/-- There is a source exactly when no error is reported. -/
theorem output_isSome_iff :
    (generateIn s files).output.isSome = true ↔ (generateIn s files).errors = [] := by
  obtain ⟨fault, -, houtput, herrors⟩ | ⟨d, -, houtput, herrors, -⟩ | ⟨out, -, houtput, herrors⟩ :=
    (generateIn_cases s files).2
  · simp [houtput, herrors]
  · simp [houtput, herrors]
  · simp [houtput, herrors]

/-- Every diagnostic of an outcome has the arguments that its message takes. -/
theorem arity_le_of_mem_diagnostics {d : Diagnostic}
    (h : d ∈ (generateIn s files).diagnostics) : d.kind.arity ≤ d.arguments.length := by
  obtain ⟨⟨warnings, hwarns, hsplit⟩, hcases⟩ := generateIn_cases s files
  rw [hsplit, List.mem_append, List.mem_append] at h
  obtain h | h | h := h
  · obtain ⟨o, assembly, raw, defect, rfl⟩ := hwarns.exists_option d h
    exact Nat.le_refl 3
  · unfold keyWarnings at h
    split at h
    · obtain ⟨triple, -, rfl⟩ := List.mem_map.mp h
      exact Nat.le_refl 2
    · exact absurd h List.not_mem_nil
  · obtain ⟨fault, -, -, herrors⟩ | ⟨e, -, -, herrors, hrefusal⟩ | ⟨out, -, -, herrors⟩ := hcases
    · rw [herrors, List.mem_singleton] at h
      rw [h]
      exact Nat.le_refl 1
    · rw [herrors, List.mem_singleton] at h
      rw [h]
      exact hrefusal.arity_le
    · rw [herrors] at h
      exact absurd h List.not_mem_nil

/-- Every diagnostic of an outcome has a line that shows it. -/
theorem exists_render_of_mem_diagnostics {d : Diagnostic}
    (h : d ∈ (generateIn s files).diagnostics) : ∃ line, d.render = .ok line :=
  ⟨d.line, Diagnostic.render_eq (arity_le_of_mem_diagnostics h)⟩

/-- A fault is reported exactly when it ends the pass. -/
theorem exists_unexpectedFault_iff :
    (∃ d ∈ (generateIn s files).diagnostics, d.kind = .unexpectedFault) ↔
      ∃ fault, (passSteps s files).ending = .error fault := by
  obtain ⟨⟨warnings, hwarns, hsplit⟩, hcases⟩ := generateIn_cases s files
  rw [hsplit]
  constructor
  · rintro ⟨d, hd, hkind⟩
    rw [List.mem_append, List.mem_append] at hd
    obtain hd | hd | hd := hd
    · rw [hwarns.kind d hd] at hkind
      exact absurd hkind (by decide)
    · rw [(keyWarnings_kind hd).1] at hkind
      exact absurd hkind (by decide)
    · obtain ⟨fault, hending, -⟩ | ⟨e, -, -, herrors, hrefusal⟩ | ⟨out, -, -, herrors⟩ := hcases
      · exact ⟨fault, hending⟩
      · rw [herrors, List.mem_singleton] at hd
        exact absurd hkind (hd ▸ hrefusal.kind_ne)
      · rw [herrors] at hd
        exact absurd hd List.not_mem_nil
  · rintro ⟨fault, hending⟩
    obtain ⟨fault, -, -, herrors⟩ | ⟨e, hother, -⟩ | ⟨out, hother, -⟩ := hcases
    · rw [herrors]
      exact ⟨faultDiagnostic fault, List.mem_append_right _ (List.mem_append_right _
        (List.mem_singleton_self _)), rfl⟩
    · rw [hending] at hother
      exact absurd hother (by simp)
    · rw [hending] at hother
      exact absurd hother (by simp)

/-- The name for the file of a class is that of its options. -/
theorem generateIn_hintName :
    (generateIn s files).hintName =
      (resolveWith s.property).ending.toOption.map (·.hintName) := by
  unfold generateIn
  simp only
  split <;> rfl

/-- There is no name for the file of a class exactly when its options are not resolved. -/
theorem hintName_eq_none_iff :
    (generateIn s files).hintName = none ↔
      ∃ fault, (resolveWith s.property).ending = .error fault := by
  rw [generateIn_hintName, Option.map_eq_none_iff]
  cases (resolveWith s.property).ending with
  | error fault => exact ⟨fun _ => ⟨fault, rfl⟩, fun _ => rfl⟩
  | ok o => exact ⟨fun h => absurd h (by simp [Except.toOption]), fun ⟨_, h⟩ => absurd h (by simp)⟩

/-- **The shape of an outcome.**  Whatever the properties and the files are answered with, each
time they are asked for:

* There is a source exactly when no error is reported.  A fault leaves no source and is reported.
* At most one error is reported, and it is the last diagnostic.  Before it are warnings that
  options do not take their values, in the order of the options, and then, where there is a source,
  the warnings about keys, in the order of the files and of the keys in them.
* Warnings about keys are reported only where there is a source.
* A fault is reported exactly when a property that was asked for failed, or a file that was loaded
  failed in an unforeseen way, or gave a text that nests values too deeply.
* There is no name for the file of the class exactly when the options could not be resolved, that
  is, when a property that was asked for failed.
* No question is asked twice, so nothing keeps two answers from being different. -/
theorem generateIn_shape (s : Surroundings) (files : List String) :
    ((generateIn s files).output.isSome = true ↔ (generateIn s files).errors = []) ∧
    (∀ fault, (passSteps s files).ending = .error fault →
      (generateIn s files).output = none ∧
      (generateIn s files).errors = [faultDiagnostic fault]) ∧
    (generateIn s files).errors.length ≤ 1 ∧
    (∃ warnings, WarnsOf [.namespaceName, .className, .modifiers] warnings ∧
      (generateIn s files).diagnostics =
        warnings ++ ((if (generateIn s files).output.isSome then
            (repeats (pairsInTurn s.file 0 files)).map repeatWarning else []) ++
          (generateIn s files).errors)) ∧
    ((∃ d ∈ (generateIn s files).diagnostics, d.kind = .duplicateKey) →
      (generateIn s files).output.isSome = true) ∧
    ((∃ d ∈ (generateIn s files).diagnostics, d.kind = .unexpectedFault) ↔
      (∃ purpose fault, .property purpose ∈ (passSteps s files).asked ∧
        s.property purpose = .error fault) ∨
      (∃ turn path fault, .file turn path ∈ (passSteps s files).asked ∧
        s.file turn path = .error (.fault fault)) ∨
      (∃ turn path text, .file turn path ∈ (passSteps s files).asked ∧
        s.file turn path = .ok text ∧ Json5.parse text = .error .tooDeep)) ∧
    ((generateIn s files).hintName = none ↔
      ∃ purpose fault, .property purpose ∈ (passSteps s files).asked ∧
        s.property purpose = .error fault) ∧
    (passSteps s files).asked.Nodup := by
  obtain ⟨hsplit, hcases⟩ := generateIn_cases s files
  refine ⟨output_isSome_iff, ?_, ?_, hsplit, ?_,
    exists_unexpectedFault_iff.trans exists_passSteps_eq_error_iff,
    hintName_eq_none_iff.trans exists_resolveWith_eq_error_iff, asked_passSteps_nodup s files⟩
  · intro fault hending
    obtain ⟨other, hother, houtput, herrors⟩ | ⟨d, hother, -⟩ | ⟨out, hother, -⟩ := hcases
    · rw [hending, Except.error.injEq] at hother
      rw [hother]
      exact ⟨houtput, herrors⟩
    · rw [hending] at hother
      exact absurd hother (by simp)
    · rw [hending] at hother
      exact absurd hother (by simp)
  · obtain ⟨fault, -, -, herrors⟩ | ⟨d, -, -, herrors, -⟩ | ⟨out, -, -, herrors⟩ := hcases
    · rw [herrors, List.length_singleton]
    · rw [herrors, List.length_singleton]
    · rw [herrors]
      exact Nat.zero_le 1
  · rintro ⟨d, hd, hkind⟩
    obtain ⟨warnings, hwarns, hreports⟩ := hsplit
    rw [hreports, List.mem_append, List.mem_append] at hd
    obtain hd | hd | hd := hd
    · rw [hwarns.kind d hd] at hkind
      exact absurd hkind (by decide)
    · exact (keyWarnings_kind hd).2
    · have herror := (List.mem_filter.mp hd).2
      rw [Diagnostic.isError, hkind] at herror
      exact absurd herror (by decide)

/-- Properties of which two are not taken; the name of the assembly is given for the first report
and fails for the second one. -/
def failingReport : Surroundings where
  property
    | .value .namespaceName => .ok (some "1")
    | .report .namespaceName => .ok (some "App")
    | .value .className => .ok (some "2")
    | .report .className => .error (.raised "KeyError" "AssemblyName")
    | _ => .ok none
  file _ path := .error (.unavailable path)

/-- The fault behind the second report comes after the warning of the first one, and there is no
name for the file of the class. -/
theorem generateIn_shape_failing_report :
    (generateIn failingReport []).output = none ∧
      (generateIn failingReport []).errors =
        [faultDiagnostic (.raised "KeyError" "AssemblyName")] ∧
      (generateIn failingReport []).hintName = none ∧
      (generateIn failingReport []).diagnostics.map (·.kind) =
        [.invalidOption, .unexpectedFault] := by
  obtain ⟨-, hfault, -, -, -, -, hhint, -⟩ := generateIn_shape failingReport []
  obtain ⟨houtput, herrors⟩ := hfault (.raised "KeyError" "AssemblyName") (by decide +kernel)
  refine ⟨houtput, herrors, hhint.mpr ⟨.report .className, _, ?_, rfl⟩, by decide +kernel⟩
  decide +kernel

end Phrasebook
