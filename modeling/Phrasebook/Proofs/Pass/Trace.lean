import Phrasebook.Proofs.Pass.Logged

/-!
# The log of a pass

The log of a pass says what its outcome is, and what its block binds is gone again before a fault is
logged:

* `records_generateIn`, `parts` — the log before the block, in it and after it;
* `reports_generateIn` — the reports in it;
* `Course`, `course` — the three ways in which a pass can go, with what each of them logs;
* `exists_ends` — the one record of how a pass has ended;
* `generateIn_log` — the log and the outcome.
-/

namespace Phrasebook

open Phrasebook.Log Phrasebook.Naming Phrasebook.Text

variable {s : Surroundings} {files : List String}

/-- What a pass logs in its block: nothing, if the options are not resolved. -/
def blockRecords (s : Surroundings) (files : List String) : List Record :=
  match (resolveWith s.property).ending with
  | .error _ => []
  | .ok o => ((generateWith o files s.file).within (passBlock o files)).records

/-- What is logged at the end of a pass: the fault, if there is one. -/
def failureRecords : Except Fault (Option Text) → List Record
  | .error _ => [⟨.passFailed, ∅⟩, ⟨.diagnosticReported .unexpectedFault, ∅⟩]
  | .ok _ => []

theorem records_passSteps (s : Surroundings) (files : List String) :
    (passSteps s files).records = (resolveWith s.property).records ++ blockRecords s files := by
  unfold passSteps blockRecords
  cases hresolve : (resolveWith s.property).ending with
  | error fault => rw [Step.bind_of_error hresolve, List.append_nil]
  | ok o => rw [Step.bind_of_ok hresolve]

/-- **The log before the block, in it and after it.** -/
theorem records_generateIn (s : Surroundings) (files : List String) :
    (generateIn s files).records = (resolveWith s.property).records ++
      (blockRecords s files ++ failureRecords (passSteps s files).ending) := by
  rw [← List.append_assoc, ← records_passSteps]
  simp only [generateIn]
  cases (passSteps s files).ending with
  | error fault => rfl
  | ok output => exact (List.append_nil _).symm

/-- Each report is logged, and in its turn. -/
theorem reports_generateIn (s : Surroundings) (files : List String) :
    (generateIn s files).records.filterMap (·.event.reported?) =
      (generateIn s files).diagnostics.map (·.kind) := by
  have hblock : (passSteps s files).records.filterMap (·.event.reported?) =
      (passSteps s files).diagnostics.map (·.kind) := by
    have hoptions := (logs_resolveWith s.property).reports
    unfold passSteps
    cases hresolve : (resolveWith s.property).ending with
    | error fault =>
      rw [Step.bind_of_error hresolve]
      exact hoptions
    | ok o =>
      have hwith := (logs_generateWith o files s.file).reports
      rw [Step.bind_of_ok hresolve, List.filterMap_append, hoptions, List.map_append,
        Step.diagnostics_within, ← hwith, Step.within, List.filterMap_map]
      rfl
  rw [records_generateIn, ← List.append_assoc, ← records_passSteps, List.filterMap_append, hblock]
  cases hending : (passSteps s files).ending with
  | error fault =>
    rw [(generateIn_of_error hending).2, List.map_append]
    rfl
  | ok output =>
    rw [(generateIn_of_ok hending).2]
    exact List.append_nil _

/-- The options of a pass are resolved to these, and its reading ends with this result. -/
structure Reads (s : Surroundings) (files : List String) (o : ClassOptions)
    (result : Except Diagnostic Catalog) : Prop where
  options : (resolveWith s.property).ending = .ok o
  reading : (Catalog.readInTurn (reservedNames o.className) s.file files).ending = .ok result

/-- A reading ends with one result. -/
theorem Reads.unique {o o' : ClassOptions} {result result' : Except Diagnostic Catalog}
    (h : Reads s files o result) (h' : Reads s files o' result') : result = result' := by
  have ho : o = o' := Except.ok.inj (h.options.symm.trans h'.options)
  subst ho
  exact Except.ok.inj (h.reading.symm.trans h'.reading)

/-- **The ways in which a pass can go**: its options are not resolved, its reading fails, or its
reading ends; with how it ends and what it logs in its block. -/
inductive Course (s : Surroundings) (files : List String) : Prop
  | unresolved {fault : Fault} (hresolve : (resolveWith s.property).ending = .error fault)
      (hending : (passSteps s files).ending = .error fault) (hblock : blockRecords s files = [])
  | failed {o : ClassOptions} {fault : Fault}
      (hresolve : (resolveWith s.property).ending = .ok o)
      (hread : (Catalog.readInTurn (reservedNames o.className) s.file files).ending = .error fault)
      (hending : (passSteps s files).ending = .error fault)
      (hblock : (blockRecords s files).map (·.event) = .passStarted o.namespaceName ::
        (Catalog.readInTurn (reservedNames o.className) s.file files).records.map (·.event))
  | concluded {o : ClassOptions} {result : Except Diagnostic Catalog}
      (hreads : Reads s files o result)
      (hending : (passSteps s files).ending = .ok (outputOf o result))
      (hblock : (blockRecords s files).map (·.event) = .passStarted o.namespaceName ::
        ((Catalog.readInTurn (reservedNames o.className) s.file files).records.map (·.event) ++
          closingEvents result))

/-- There is no other way. -/
theorem course (s : Surroundings) (files : List String) : Course s files := by
  cases hresolve : (resolveWith s.property).ending with
  | error fault =>
    refine .unresolved hresolve (Step.ending_bind_of_error hresolve _) ?_
    rw [blockRecords, hresolve]
  | ok o =>
    have hending : (passSteps s files).ending = (generateWith o files s.file).ending :=
      Step.ending_bind_of_ok hresolve _
    have hblock : (blockRecords s files).map (·.event) =
        (generateWith o files s.file).records.map (·.event) := by
      rw [blockRecords, hresolve]
      exact Step.events_within _
    cases hread : (Catalog.readInTurn (reservedNames o.className) s.file files).ending with
    | error fault =>
      obtain ⟨hend, hevents⟩ := generateWith_of_error o files s.file hread
      exact .failed hresolve hread (hending.trans hend) (hblock.trans hevents)
    | ok result =>
      obtain ⟨hend, hevents⟩ := generateWith_of_ok o files s.file hread
      exact .concluded ⟨hresolve, hread⟩ (hending.trans hend) (hblock.trans hevents)

/-! ### How a pass says that it has ended -/

/-- A step that logs no event of this kind does not say how the pass has ended. -/
theorem Step.Logs.filter_isTerminal {α : Type} {allowed : Event → Prop} {p : Step α}
    (h : p.Logs allowed) (hallowed : ∀ e, allowed e → e.isTerminal = false) :
    (p.records.map (·.event)).filter (·.isTerminal) = [] := by
  rw [List.filter_eq_nil_iff, List.forall_mem_map]
  intro r hr
  rw [hallowed _ (h.events r hr)]
  exact Bool.false_ne_true

theorem filter_isTerminal_closingEvents (result : Except Diagnostic Catalog) :
    (closingEvents result).filter (·.isTerminal) = [match result with
      | .error d => .passAborted d.kind
      | .ok catalog => .passCompleted catalog.entries.length] := by
  cases result with
  | error d => rfl
  | ok catalog =>
    have hreports : (catalog.warnings.map fun d => Event.diagnosticReported d.kind).filter
        (·.isTerminal) = [] := by
      rw [List.filter_eq_nil_iff, List.forall_mem_map]
      exact fun _ _ => Bool.false_ne_true
    rw [closingEvents, List.filter_append, hreports]
    rfl

/-- The options do not say how the pass has ended. -/
theorem filter_isTerminal_generateIn {inside : List Event}
    (hinside : (blockRecords s files).map (·.event) = inside) :
    ((generateIn s files).records.map (·.event)).filter (·.isTerminal) =
      inside.filter (·.isTerminal) ++
        ((failureRecords (passSteps s files).ending).map (·.event)).filter (·.isTerminal) := by
  rw [records_generateIn, List.map_append, List.map_append, List.filter_append, List.filter_append,
    (logs_resolveWith s.property).filter_isTerminal fun _ => Event.IsOfOptions.isTerminal, hinside,
    List.nil_append]

/-- In the block it is what is logged behind the reading that says it. -/
theorem filter_isTerminal_block (o : ClassOptions) (closing : List Event) :
    (Event.passStarted o.namespaceName ::
      ((Catalog.readInTurn (reservedNames o.className) s.file files).records.map (·.event) ++
        closing)).filter (·.isTerminal) = closing.filter (·.isTerminal) := by
  have hreading := (Catalog.logs_readFrom (reservedNames o.className) s.file files .initial
    0).filter_isTerminal fun _ => Event.IsOfReading.isTerminal
  rw [List.filter_cons_of_neg Bool.false_ne_true, List.filter_append]
  show List.filter _ ((Catalog.readFrom _ _ _ _ _).records.map _) ++ _ = _
  rw [hreading, List.nil_append]

/-- The record says how a pass has ended. -/
structure Ends (s : Surroundings) (files : List String) (r : Record) : Prop where
  completed : r.event.name = "generation_completed" ↔ (generateIn s files).isSuccess = true
  aborted : r.event.name = "generation_aborted" ↔ ∃ o d, Reads s files o (.error d)
  failed : r.event.name = "generation_failed" ↔ ∃ fault, (passSteps s files).ending = .error fault
  count : ∀ o catalog, Reads s files o (.ok catalog) →
    r.fields.get? "entry_count" = some (.number catalog.entries.length)
  code : ∀ o d, Reads s files o (.error d) →
    r.fields.get? "diagnostic_id" = some (.text d.kind.id)

/-- Where a reading ends with a result, so does the pass. -/
theorem Reads.ending {o : ClassOptions} {result : Except Diagnostic Catalog}
    (h : Reads s files o result) : (passSteps s files).ending = .ok (outputOf o result) :=
  (Step.ending_bind_of_ok h.options _).trans (generateWith_of_ok o files s.file h.reading).1

/-- A fault. -/
theorem ends_of_failed {r : Record} {fault : Fault} (hevent : r.event = .passFailed)
    (hending : (passSteps s files).ending = .error fault) : Ends s files r := by
  have hnone : ∀ o result, ¬ Reads s files o result := by
    intro o result hreads
    rw [hreads.ending] at hending
    exact absurd hending (by simp)
  have houtput := (generateIn_of_error hending).1
  refine ⟨?_, ?_, ⟨fun _ => ⟨fault, hending⟩, fun _ => by rw [hevent]; rfl⟩,
    fun o catalog h => absurd h (hnone o _), fun o d h => absurd h (hnone o _)⟩
  · rw [hevent, Generation.isSuccess, houtput]
    simp [Event.name]
  · rw [hevent]
    refine ⟨fun h => absurd h (by simp [Event.name]), ?_⟩
    rintro ⟨o, d, h⟩
    exact absurd h (hnone o _)

/-- A reading that gives a diagnostic. -/
theorem ends_of_aborted {r : Record} {o : ClassOptions} {d : Diagnostic}
    (hevent : r.event = .passAborted d.kind) (hreads : Reads s files o (.error d)) :
    Ends s files r := by
  have houtput := (generateIn_of_ok hreads.ending).1
  refine ⟨?_, ⟨fun _ => ⟨o, d, hreads⟩, fun _ => by rw [hevent]; rfl⟩, ?_, fun o' catalog h => ?_,
    fun o' d' h => ?_⟩
  · rw [hevent, Generation.isSuccess, houtput]
    simp [Event.name, outputOf]
  · rw [hevent, hreads.ending]
    simp [Event.name]
  · exact absurd (hreads.unique h) (by simp)
  · rw [← Except.error.inj (hreads.unique h)]
    refine Record.get?_fields_of_mem ?_
    rw [hevent]
    exact List.mem_cons_self

/-- A reading that gives a catalog. -/
theorem ends_of_completed {r : Record} {o : ClassOptions} {catalog : Catalog}
    (hevent : r.event = .passCompleted catalog.entries.length)
    (hreads : Reads s files o (.ok catalog)) : Ends s files r := by
  have houtput := (generateIn_of_ok hreads.ending).1
  refine ⟨⟨fun _ => ?_, fun _ => by rw [hevent]; rfl⟩, ?_, ?_, fun o' catalog' h => ?_,
    fun o' d h => ?_⟩
  · rw [Generation.isSuccess, houtput]
    rfl
  · rw [hevent]
    refine ⟨fun h => absurd h (by simp [Event.name]), ?_⟩
    rintro ⟨o', d, h⟩
    exact absurd (hreads.unique h) (by simp)
  · rw [hevent, hreads.ending]
    simp [Event.name]
  · rw [← Except.ok.inj (hreads.unique h)]
    refine Record.get?_fields_of_mem ?_
    rw [hevent]
    exact List.mem_cons_self
  · exact absurd (hreads.unique h) (by simp)

/-- **A pass says once how it has ended.** -/
theorem exists_ends (s : Surroundings) (files : List String) :
    ∃ r, (generateIn s files).records.filter (·.event.isTerminal) = [r] ∧ Ends s files r := by
  have hrecord : ∀ e, ((generateIn s files).records.map (·.event)).filter (·.isTerminal) = [e] →
      ∃ r, (generateIn s files).records.filter (·.event.isTerminal) = [r] ∧ r.event = e := by
    intro e he
    rw [List.filter_map, List.map_eq_singleton_iff] at he
    exact he
  cases course s files with
  | unresolved _ hending hblock =>
    obtain ⟨r, hr, hevent⟩ := hrecord .passFailed (by
      rw [filter_isTerminal_generateIn (congrArg _ hblock), hending]
      rfl)
    exact ⟨r, hr, ends_of_failed hevent hending⟩
  | @failed o fault _ _ hending hblock =>
    obtain ⟨r, hr, hevent⟩ := hrecord .passFailed (by
      rw [filter_isTerminal_generateIn hblock, ← List.append_nil (List.map _ _),
        filter_isTerminal_block, hending]
      rfl)
    exact ⟨r, hr, ends_of_failed hevent hending⟩
  | @concluded o result hreads hending hblock =>
    have hclosing := filter_isTerminal_generateIn hblock
    rw [filter_isTerminal_block, hending, filter_isTerminal_closingEvents] at hclosing
    obtain ⟨r, hr, hevent⟩ := hrecord _ hclosing
    cases result with
    | error d => exact ⟨r, hr, ends_of_aborted hevent hreads⟩
    | ok catalog => exact ⟨r, hr, ends_of_completed hevent hreads⟩

/-! ### The parts of the log -/

/-- The log of a pass before its block, in it and after it. -/
structure Parts (s : Surroundings) (files : List String) (before inside after : List Record) :
    Prop where
  options : ∀ r ∈ before, r.event.IsOfOptions ∧ r.context = Scope.initial.context ∧ r.CarriesNothing
  unopened : ∀ fault, (resolveWith s.property).ending = .error fault → inside = []
  opened : ∀ o, (resolveWith s.property).ending = .ok o → ∃ first others, inside = first :: others ∧
    first.event = .passStarted o.namespaceName ∧ ∀ r ∈ others, r.event.name ≠ "generation_started"
  block : ∀ o, (resolveWith s.property).ending = .ok o → ∀ r ∈ inside,
    r.context = (Scope.initial.step (.enter (passBlock o files))).context ∧
      r.Carries o.className files.length
  completed : ∀ output, (passSteps s files).ending = .ok output → after = []
  failure : ∀ fault, (passSteps s files).ending = .error fault →
    after.map (·.event) = [.passFailed, .diagnosticReported .unexpectedFault]
  left : ∀ o how, (resolveWith s.property).ending = .ok o → ∀ r ∈ after,
    r.context = ((Scope.initial.step (.enter (passBlock o files))).step (.exit how)).context
  outside : ∀ r ∈ after, r.CarriesNothing

theorem ne_started_of_mem_closingEvents {result : Except Diagnostic Catalog} :
    ∀ e ∈ closingEvents result, e.name ≠ "generation_started" := by
  cases result with
  | error d => simp [closingEvents, Event.name]
  | ok catalog =>
    intro e he
    rw [closingEvents, List.mem_append, List.mem_map, List.mem_singleton] at he
    obtain ⟨d, -, rfl⟩ | rfl := he
    · simp [Event.name]
    · simp [Event.name]

/-- The block begins with the start of the pass, and there is no other start in it. -/
theorem exists_started {o : ClassOptions} {closing : List Event}
    (hblock : (blockRecords s files).map (·.event) = .passStarted o.namespaceName ::
      ((Catalog.readInTurn (reservedNames o.className) s.file files).records.map (·.event) ++ closing))
    (hclosing : ∀ e ∈ closing, e.name ≠ "generation_started") :
    ∃ first others, blockRecords s files = first :: others ∧
      first.event = .passStarted o.namespaceName ∧
      ∀ r ∈ others, r.event.name ≠ "generation_started" := by
  obtain ⟨first, others, hsplit, hfirst, hothers⟩ := List.map_eq_cons_iff.mp hblock
  refine ⟨first, others, hsplit, hfirst, fun r hr => ?_⟩
  have hmem : r.event ∈ others.map (·.event) := List.mem_map_of_mem hr
  rw [hothers, List.mem_append, List.mem_map] at hmem
  obtain ⟨read, hread, heq⟩ | hmem := hmem
  · rw [← heq]
    exact ((Catalog.logs_readFrom _ s.file files .initial 0).events read hread).ne_started
  · exact hclosing _ hmem

/-- What is logged after a fault is outside of any block. -/
theorem of_mem_failureRecords {ending : Except Fault (Option Text)} :
    ∀ r ∈ failureRecords ending, r.event.IsOfPass ∧ r.context = ∅ := by
  cases ending with
  | error fault =>
    intro r hr
    rw [failureRecords, List.mem_cons, List.mem_singleton] at hr
    obtain rfl | rfl := hr
    · exact ⟨by simp [Event.IsOfPass, Event.component], rfl⟩
    · exact ⟨by simp [Event.IsOfPass, Event.component], rfl⟩
  | ok output => exact List.forall_mem_nil _

/-- **The parts of the log.** -/
theorem parts (s : Surroundings) (files : List String) :
    Parts s files (resolveWith s.property).records (blockRecords s files)
      (failureRecords (passSteps s files).ending) where
  options := fun r hr => by
    have hoptions := logs_resolveWith s.property
    have hevent := hoptions.events r hr
    have hcontext := hoptions.contexts r hr
    exact ⟨hevent, hcontext, Record.carriesNothing_of_context hevent.isOfPass hcontext⟩
  unopened := fun fault h => by rw [blockRecords, h]
  opened := fun o h => by
    cases course s files with
    | unresolved hresolve _ _ =>
      rw [h] at hresolve
      exact absurd hresolve (by simp)
    | failed hresolve _ _ hblock =>
      rw [h, Except.ok.injEq] at hresolve
      subst hresolve
      refine exists_started (hblock.trans ?_) (List.forall_mem_nil _)
      rw [List.append_nil]
    | concluded hreads _ hblock =>
      obtain rfl := Except.ok.inj (h.symm.trans hreads.options)
      exact exists_started hblock ne_started_of_mem_closingEvents
  block := fun o h r hr => by
    rw [blockRecords, h] at hr
    obtain ⟨hevent, hcontext⟩ := (logs_generateWith o files s.file).of_mem_within r hr
    exact ⟨hcontext, Record.carries_of_context hevent hcontext⟩
  completed := fun output h => by
    rw [h]
    rfl
  failure := fun fault h => by
    rw [h]
    rfl
  left := fun o how _ r hr => by
    rw [(of_mem_failureRecords r hr).2]
    exact (leave_enter (passBlock o files)).symm
  outside := fun r hr => by
    obtain ⟨hevent, hcontext⟩ := of_mem_failureRecords r hr
    exact Record.carriesNothing_of_context hevent hcontext

/-! ### What was read -/

/-- Where there is a catalog, the numbers of keys in the log are those of its reading. -/
theorem loaded_generateIn {o : ClassOptions} {catalog : Catalog}
    (h : Reads s files o (.ok catalog)) :
    ((generateIn s files).records.filterMap (·.event.loaded?)).sum =
      catalog.entries.length + catalog.warnings.length := by
  have hoptions : (resolveWith s.property).records.filterMap (·.event.loaded?) = [] := by
    rw [List.filterMap_eq_nil_iff]
    exact fun r hr => ((logs_resolveWith s.property).events r hr).loaded?
  have hclosing : (closingEvents (.ok catalog)).filterMap (·.loaded?) = [] := by
    simp [closingEvents, Event.loaded?]
  have hblock : (blockRecords s files).filterMap (·.event.loaded?) =
      (Catalog.readInTurn (reservedNames o.className) s.file files).records.filterMap
        (·.event.loaded?) := by
    have hevents := (generateWith_of_ok o files s.file h.reading).2
    have hfilter : ∀ records : List Record, records.filterMap (·.event.loaded?) =
        (records.map (·.event)).filterMap (·.loaded?) := fun records => by
      rw [List.filterMap_map]
      rfl
    rw [blockRecords, h.options, hfilter]
    simp only [Step.events_within]
    rw [hevents, List.filterMap_cons_none rfl, List.filterMap_append, hclosing, List.append_nil,
      hfilter]
  rw [records_generateIn, h.ending, List.filterMap_append, List.filterMap_append, hoptions, hblock]
  show ([] ++ (_ ++ [])).sum = _
  rw [List.nil_append, List.append_nil]
  exact Catalog.loaded_readInTurn h.reading

/-- The warnings about keys are those of the catalog. -/
theorem duplicates_generateIn {o : ClassOptions} {catalog : Catalog}
    (h : Reads s files o (.ok catalog)) :
    (generateIn s files).diagnostics.filter (fun d => d.kind = .duplicateKey) = catalog.warnings := by
  have hsome : (generateIn s files).output.isSome = true := by
    rw [(generateIn_of_ok h.ending).1]
    rfl
  obtain ⟨warnings, hwarns, hsplit⟩ := (generateIn_cases s files).1
  rw [hsplit, output_isSome_iff.mp hsome, List.append_nil, keyWarnings, if_pos hsome,
    ← (Catalog.readInTurn_contents h.reading).2, List.filter_append]
  have hoptions : warnings.filter (fun d => d.kind = .duplicateKey) = [] := by
    rw [List.filter_eq_nil_iff]
    intro d hd
    rw [hwarns.kind d hd]
    decide
  have hkeys : catalog.warnings.filter (fun d => d.kind = .duplicateKey) = catalog.warnings := by
    rw [List.filter_eq_self, (Catalog.readInTurn_contents h.reading).2, List.forall_mem_map]
    exact fun _ _ => rfl
  rw [hoptions, hkeys, List.nil_append]

/-! ### The log and the outcome -/

/-- **The log says what the outcome is.**  Whatever the properties and the files are answered with,
each time they are asked for:

* The records of reported diagnostics have, in order, the codes and severities of the diagnostics of
  the outcome.
* One record says how the pass has ended: with a class exactly when there is a source, with the
  number of its entries; with a diagnostic exactly when the reading gave one, with its code; and with
  a fault exactly when there was one.
* The records that carry the name of the class, as it was resolved, and the number of files are those
  from the start of the pass to the end of its block.  The records of the options are before it, and
  the two of a fault are after it, where what the block has bound is gone however it was left.
* Where there is a source, the numbers of keys in the files that were read add up to the number of
  entries and of warnings about keys. -/
theorem generateIn_log (s : Surroundings) (files : List String) :
    (generateIn s files).records.filterMap (·.report?) =
        (generateIn s files).diagnostics.map (fun d =>
          (some (.text d.kind.id), some (.text d.kind.severity.name))) ∧
      (∃ r, (generateIn s files).records.filter (·.event.isTerminal) = [r] ∧ Ends s files r) ∧
      (∃ before inside after, (generateIn s files).records = before ++ (inside ++ after) ∧
        Parts s files before inside after) ∧
      (∀ out, (generateIn s files).output = some out → ∃ o catalog, ∃ counts : List Nat,
        Reads s files o (.ok catalog) ∧ out = ClassSource.source o catalog.entries ∧
        (generateIn s files).records.filterMap (·.loaded?) =
          counts.map (fun count => .number count) ∧
        counts.sum = catalog.entries.length +
          ((generateIn s files).diagnostics.filter fun d => d.kind = .duplicateKey).length) := by
  refine ⟨?_, exists_ends s files, ⟨_, _, _, records_generateIn s files, parts s files⟩,
    fun out hout => ?_⟩
  · have hreports := reports_generateIn s files
    have hrecords : (generateIn s files).records.filterMap (·.report?) =
        ((generateIn s files).records.filterMap (·.event.reported?)).map fun kind =>
          (some (.text kind.id), some (.text kind.severity.name)) := by
      rw [List.map_filterMap]
      exact congrArg (List.filterMap · _) (funext Record.report?_eq)
    rw [hrecords, hreports, List.map_map]
    rfl
  · obtain ⟨o, catalog, ho, hread, hsource⟩ := generateIn_output hout
    have hreads : Reads s files o (.ok catalog) := ⟨ho, hread⟩
    refine ⟨o, catalog, (generateIn s files).records.filterMap (·.event.loaded?), hreads, hsource,
      ?_, ?_⟩
    · rw [List.map_filterMap]
      exact congrArg (List.filterMap · _) (funext Record.loaded?_eq)
    · rw [duplicates_generateIn hreads]
      exact loaded_generateIn hreads

/-- A project with a class name that is not taken, and with files that share a key. -/
def sharingProject : Surroundings where
  property
    | .value .className => .ok (some "1")
    | _ => .ok none
  file _ := Catalog.sharingLoader

/-- The catalog of these files. -/
def sharedCatalog : Catalog where
  entries := [⟨"a", "A", "first", []⟩, ⟨"b", "B", "\x7b\x7bx\x7d\x7d", [⟨"x", "x"⟩]⟩,
    ⟨"c", "C", "third", []⟩]
  warnings := [⟨.duplicateKey, [some "b", some "i18n/default/2.json"]⟩]

/-- Both warnings are logged, four keys were read, and the class has three of them. -/
theorem generateIn_log_sharing :
    (generateIn sharingProject Catalog.sharingFiles).records.filterMap (·.report?) =
        [(some (.text "TCB0007"), some (.text "warning")),
          (some (.text "TCB0006"), some (.text "warning"))] ∧
      (∃ r, (generateIn sharingProject Catalog.sharingFiles).records.filter (·.event.isTerminal) =
          [r] ∧
        r.event.name = "generation_completed" ∧ r.fields.get? "entry_count" = some (.number 3)) ∧
      ∃ counts : List Nat,
        (generateIn sharingProject Catalog.sharingFiles).records.filterMap (·.loaded?) =
          counts.map (fun count => .number count) ∧ counts.sum = 3 + 1 := by
  have hreads : Reads sharingProject Catalog.sharingFiles ClassSource.plainOptions
      (.ok sharedCatalog) :=
    ⟨by decide +kernel, by decide +kernel⟩
  have hkinds : (generateIn sharingProject Catalog.sharingFiles).diagnostics.map (·.kind) =
      [.invalidOption, .duplicateKey] := by
    decide +kernel
  have houtput := (generateIn_of_ok hreads.ending).1
  obtain ⟨hreports, ⟨r, hr, hends⟩, -, hcounts⟩ :=
    generateIn_log sharingProject Catalog.sharingFiles
  refine ⟨?_, ⟨r, hr, hends.completed.mpr ?_, hends.count _ _ hreads⟩, ?_⟩
  · have hkind : ∀ ds : List Diagnostic, (ds.map fun d =>
        (some (Value.text d.kind.id), some (Value.text d.kind.severity.name))) =
        (ds.map (·.kind)).map fun kind => (some (.text kind.id), some (.text kind.severity.name)) :=
      fun ds => by rw [List.map_map]; rfl
    rw [hreports, hkind, hkinds]
    rfl
  · rw [Generation.isSuccess, houtput]
    rfl
  · obtain ⟨o, catalog, counts, hother, -, hloaded, hsum⟩ := hcounts _ houtput
    refine ⟨counts, hloaded, ?_⟩
    rw [hsum, ← Except.ok.inj (hreads.unique hother), duplicates_generateIn hreads]
    rfl

end Phrasebook
