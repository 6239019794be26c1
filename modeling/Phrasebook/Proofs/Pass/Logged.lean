import Mathlib.Algebra.GroupWithZero.Nat
import Phrasebook.Proofs.Log.Record
import Phrasebook.Proofs.Pass.Generation
import Phrasebook.Proofs.Pass.Shape

/-!
# What the parts of a pass log

The options, the reading and the end of a pass log on their own, and each report is logged where it
is made:

* `Record.report?`, `Record.loaded?`, `Event.isTerminal` — what a reader of the log sees of it;
* `Record.Carries` — the names that the block of a pass binds;
* `Step.Logs` — a step that logs certain events outside of any block, and each of its reports;
* `logs_resolveWith`, `Catalog.logs_readFrom`, `logs_generateWith` — the parts of a pass are such;
* `Catalog.loaded_readFrom` — the numbers of keys that a reading logs;
* `generateWith_of_error`, `generateWith_of_ok` — what is logged behind the start of a pass.
-/

namespace Phrasebook

open Phrasebook.Log Phrasebook.Naming Phrasebook.Text

namespace Log

/-! ### What the log shows -/

/-- The kind of the diagnostic that was reported, if this is what the event says. -/
def Event.reported? : Event → Option DiagnosticKind
  | .diagnosticReported kind => some kind
  | _ => none

/-- The number of keys in the file that was read, if this is what the event says. -/
def Event.loaded? : Event → Option Nat
  | .fileLoaded _ count => some count
  | _ => none

/-- Whether the event says how a pass has ended. -/
def Event.isTerminal (e : Event) : Bool :=
  ["generation_completed", "generation_aborted", "generation_failed"].contains e.name

/-- The code and the severity in a record of a reported diagnostic. -/
def Record.report? (r : Record) : Option (Option Value × Option Value) :=
  if r.event.name = "diagnostic_reported" then
    some (r.fields.get? "diagnostic_id", r.fields.get? "severity")
  else none

/-- The number of keys in a record of a file that was read. -/
def Record.loaded? (r : Record) : Option Value :=
  if r.event.name = "translation_file_loaded" then r.fields.get? "entry_count" else none

/-- The record has the names that the block of a pass binds, and with these values. -/
def Record.Carries (r : Record) (className : String) (count : Nat) : Prop :=
  r.fields.get? "class_name" = some (.text className) ∧
    r.fields.get? "file_count" = some (.number count)

/-- The record has neither of the names that the block of a pass binds. -/
def Record.CarriesNothing (r : Record) : Prop :=
  r.fields.get? "class_name" = none ∧ r.fields.get? "file_count" = none

/-- A record of a reported diagnostic has its code and its severity, whatever the context has. -/
theorem Record.report?_eq (r : Record) :
    r.report? = r.event.reported?.map fun kind =>
      (some (.text kind.id), some (.text kind.severity.name)) := by
  obtain ⟨e, context⟩ := r
  cases e with
  | diagnosticReported kind =>
    have hid : (⟨.diagnosticReported kind, context⟩ : Record).fields.get? "diagnostic_id" =
        some (.text kind.id) := get?_fields_of_mem List.mem_cons_self
    have hseverity : (⟨.diagnosticReported kind, context⟩ : Record).fields.get? "severity" =
        some (.text kind.severity.name) :=
      get?_fields_of_mem (List.mem_cons_of_mem _ List.mem_cons_self)
    rw [Record.report?, hid, hseverity]
    rfl
  | _ => exact if_neg (by simp [Event.name])

/-- A record of a file that was read has its number of keys, whatever the context has. -/
theorem Record.loaded?_eq (r : Record) :
    r.loaded? = r.event.loaded?.map fun count => .number count := by
  obtain ⟨e, context⟩ := r
  cases e with
  | fileLoaded path count =>
    exact (if_pos rfl).trans (get?_fields_of_mem (List.mem_cons_of_mem _ List.mem_cons_self))
  | _ => exact if_neg (by simp [Event.name])

/-- No event of a pass has a name of its own that the block of a pass binds. -/
theorem Event.not_mem_fields {e : Event} (h : e.component ≠ "cli") :
    "class_name" ∉ e.fields.map Prod.fst ∧ "file_count" ∉ e.fields.map Prod.fst := by
  cases e <;> simp [Event.fields, Event.component] at h ⊢

/-- In the block of a pass, its records have what the block binds. -/
theorem Record.carries_of_context {r : Record} {o : ClassOptions} {files : List String}
    (hevent : r.event.component ≠ "cli") (hcontext : r.context = enter ∅ (passBlock o files)) :
    r.Carries o.className files.length := by
  obtain ⟨hclass, hcount⟩ := Event.not_mem_fields hevent
  rw [Record.Carries, get?_fields_of_not_mem hclass, get?_fields_of_not_mem hcount, hcontext]
  exact ⟨rfl, rfl⟩

/-- Outside of it they have not. -/
theorem Record.carriesNothing_of_context {r : Record} (hevent : r.event.component ≠ "cli")
    (hcontext : r.context = ∅) : r.CarriesNothing := by
  obtain ⟨hclass, hcount⟩ := Event.not_mem_fields hevent
  rw [Record.CarriesNothing, get?_fields_of_not_mem hclass, get?_fields_of_not_mem hcount, hcontext]
  exact ⟨rfl, rfl⟩

/-! ### Who logs what -/

/-- The event is one of the options: a value that is not taken, or the report of it. -/
def Event.IsOfOptions (e : Event) : Prop :=
  e.component = "options" ∨ e = .diagnosticReported .invalidOption

/-- The event is one of the reading. -/
def Event.IsOfReading (e : Event) : Prop :=
  e.component = "reader"

/-- The event is one of a pass, and not of the command around it. -/
def Event.IsOfPass (e : Event) : Prop :=
  e.component ≠ "cli"

theorem Event.IsOfOptions.isOfPass {e : Event} (h : e.IsOfOptions) : e.IsOfPass := by
  rcases h with h | rfl
  · rw [Event.IsOfPass, h]
    decide
  · simp [Event.IsOfPass, Event.component]

theorem Event.IsOfReading.isOfPass {e : Event} (h : e.IsOfReading) : e.IsOfPass := by
  rw [Event.IsOfPass, show e.component = "reader" from h]
  decide

theorem Event.IsOfOptions.isTerminal {e : Event} (h : e.IsOfOptions) : e.isTerminal = false := by
  rcases h with h | rfl
  · cases e <;> simp [Event.component] at h
    rfl
  · rfl

theorem Event.IsOfOptions.loaded? {e : Event} (h : e.IsOfOptions) : e.loaded? = none := by
  rcases h with h | rfl
  · cases e <;> simp [Event.component] at h
    rfl
  · rfl

theorem Event.IsOfReading.isTerminal {e : Event} (h : e.IsOfReading) : e.isTerminal = false := by
  cases e <;> simp [Event.IsOfReading, Event.component] at h <;> rfl

theorem Event.IsOfReading.ne_started {e : Event} (h : e.IsOfReading) :
    e.name ≠ "generation_started" := by
  cases e <;> simp [Event.IsOfReading, Event.component] at h <;> simp [Event.name]

end Log

/-! ### Steps and what they log -/

namespace Step

variable {α β : Type} {allowed other : Event → Prop} {p : Step α}

/-- A step that logs only certain events, all of them outside of any block, and of each diagnostic
that it reports that it was reported. -/
structure Logs (allowed : Event → Prop) (p : Step α) : Prop where
  events : ∀ r ∈ p.records, allowed r.event
  contexts : ∀ r ∈ p.records, r.context = ∅
  reports : p.records.filterMap (·.event.reported?) = p.diagnostics.map (·.kind)

theorem Logs.mono (h : p.Logs allowed) (hother : ∀ e, allowed e → other e) : p.Logs other :=
  ⟨fun r hr => hother _ (h.events r hr), h.contexts, h.reports⟩

theorem logs_pure (a : α) : (Pure.pure a : Step α).Logs allowed :=
  ⟨List.forall_mem_nil _, List.forall_mem_nil _, rfl⟩

theorem logs_ask (q : Question) (answer : Except Fault α) : (ask q answer).Logs allowed :=
  ⟨List.forall_mem_nil _, List.forall_mem_nil _, rfl⟩

/-- An event that is no report. -/
theorem logs_log {e : Event} (h : allowed e) (hreported : e.reported? = none) :
    (log e).Logs allowed :=
  ⟨List.forall_mem_singleton.mpr h, List.forall_mem_singleton.mpr rfl,
    List.filterMap_cons_none hreported⟩

/-- A report. -/
theorem logs_report {d : Diagnostic} (h : allowed (.diagnosticReported d.kind)) :
    (report d).Logs allowed :=
  ⟨List.forall_mem_singleton.mpr h, List.forall_mem_singleton.mpr rfl, rfl⟩

/-- **Two steps log what each of them logs.** -/
theorem Logs.bind {f : α → Step β} (hp : p.Logs allowed) (hf : ∀ a, (f a).Logs allowed) :
    (p >>= f).Logs allowed := by
  cases hending : p.ending with
  | error fault =>
    rw [bind_of_error hending]
    exact ⟨hp.events, hp.contexts, hp.reports⟩
  | ok a =>
    rw [bind_of_ok hending]
    refine ⟨List.forall_mem_append.mpr ⟨hp.events, (hf a).events⟩,
      List.forall_mem_append.mpr ⟨hp.contexts, (hf a).contexts⟩, ?_⟩
    rw [List.filterMap_append, List.map_append, hp.reports, (hf a).reports]

/-- Several reports. -/
theorem logs_reportAll {ds : List Diagnostic} (h : ∀ kind, allowed (.diagnosticReported kind)) :
    (reportAll ds).Logs allowed := by
  induction ds with
  | nil => exact logs_pure ()
  | cons d rest ih => exact Logs.bind (logs_report (h d.kind)) fun _ => ih

theorem events_reportAll (ds : List Diagnostic) :
    (reportAll ds).records.map (·.event) = ds.map fun d => .diagnosticReported d.kind := by
  induction ds with
  | nil => rfl
  | cons d rest ih =>
    show Event.diagnosticReported d.kind :: (reportAll rest).records.map (·.event) = _
    rw [ih, List.map_cons]

/-- A block has no part in which events are logged. -/
theorem events_within (b : Block) : (p.within b).records.map (·.event) =
    p.records.map (·.event) := by
  rw [within, List.map_map]
  rfl

/-- What is logged in a block without being in another one has what the block binds. -/
theorem Logs.of_mem_within (h : p.Logs allowed) {b : Block} :
    ∀ r ∈ (p.within b).records, allowed r.event ∧ r.context = enter ∅ b := by
  intro r hr
  obtain ⟨inner, hinner, rfl⟩ := List.mem_map.mp hr
  refine ⟨h.events inner hinner, ?_⟩
  show (enter ∅ b).override inner.context.toList = enter ∅ b
  rw [h.contexts inner hinner]
  rfl

end Step

/-! ### The options -/

section

open Step

variable (answers : Answers)

theorem logs_readOption (o : ClassOption) : (readOption answers o).Logs Event.IsOfOptions := by
  refine Logs.bind (logs_ask _ _) fun given => ?_
  split
  · exact logs_pure _
  · split
    · exact logs_pure _
    · refine Logs.bind (logs_log (.inl rfl) rfl) fun _ => Logs.bind (logs_ask _ _) fun _ => ?_
      exact Logs.bind (logs_report (.inr rfl)) fun _ => logs_pure _

theorem logs_resolveNamespace : (resolveNamespace answers).Logs Event.IsOfOptions := by
  refine (logs_readOption answers .namespaceName).bind fun given => ?_
  split
  · exact logs_pure _
  · refine Logs.bind (logs_ask _ _) fun root => ?_
    split
    · exact logs_pure _
    · exact Logs.bind (logs_ask _ _) fun _ => logs_pure _

/-- **Resolving the options** logs values that are not taken, and the reports of them. -/
theorem logs_resolveWith : (resolveWith answers).Logs Event.IsOfOptions :=
  (logs_resolveNamespace answers).bind fun _ => (logs_readOption answers .className).bind fun _ =>
    (logs_readOption answers .modifiers).bind fun _ => logs_pure _

end

/-! ### The reading -/

namespace Catalog

open Step

variable {reserved : List String} {load : Nat → Loader} {p : Progress} {turn : Nat} {path : String}
  {location : Location} {rest : List String}

theorem logs_finish (p : Progress) : (finish p).Logs Event.IsOfReading := by
  unfold finish
  split
  · exact Logs.bind (logs_log rfl rfl) fun _ => logs_pure _
  · exact logs_pure _

/-- **A reading** logs events of its own, and reports nothing. -/
theorem logs_readFrom (reserved : List String) (load : Nat → Loader) (files : List String) :
    ∀ p turn, (readFrom reserved load p turn files).Logs Event.IsOfReading := by
  induction files with
  | nil => exact fun p _ => logs_finish p
  | cons path rest ih =>
    intro p turn
    unfold readFrom
    split
    · exact Logs.bind (logs_log rfl rfl) fun _ => logs_pure _
    · split
      · exact Logs.bind (logs_log rfl rfl) fun _ => logs_pure _
      · split
        · exact ih _ _
        · refine Logs.bind (logs_ask _ _) fun answer => ?_
          split
          · exact Logs.bind (logs_log rfl rfl) fun _ => logs_pure _
          · exact Logs.bind (logs_log rfl rfl) fun _ => ih _ _

/-- Nothing is logged for a file of another locale. -/
theorem records_readFrom_of_other_locale (hlocation : Location.ofPath? path = some location)
    (haccepts : p.accepts location.layout = true) (hdefault : location.isDefault = false) :
    (readFrom reserved load p turn (path :: rest)).records =
      (readFrom reserved load { p with layout := some location.layout } (turn + 1) rest).records := by
  rw [readFrom, hlocation]
  simp only [haccepts, hdefault]
  rfl

/-- For a file of the default locale the number of its keys is logged, those included that are
known. -/
theorem records_readFrom_of_pairs {pairs : List (Text × Text)}
    (hlocation : Location.ofPath? path = some location)
    (haccepts : p.accepts location.layout = true) (hdefault : location.isDefault = true)
    (hload : loadPairs (load turn) path = .ok (.ok pairs)) :
    (readFrom reserved load p turn (path :: rest)).records =
      ⟨.fileLoaded path pairs.length, ∅⟩ :: (readFrom reserved load
        (({ p with layout := some location.layout } : Progress).addPairs reserved path pairs)
        (turn + 1) rest).records := by
  rw [readFrom, hlocation]
  simp only [haccepts, hdefault]
  have hask : (Step.ask (.file turn path) (loadPairs (load turn) path)).ending
      = .ok (.ok pairs) := hload
  rw [Bool.not_true, if_neg Bool.false_ne_true, if_neg Bool.false_ne_true, Step.bind_of_ok hask]
  rfl

/-- **The numbers of keys** that a reading with a catalog logs add up to the number of all pairs. -/
theorem loaded_readFrom {catalog : Catalog} (files : List String) :
    ∀ p turn, (readFrom reserved load p turn files).ending = .ok (.ok catalog) →
      ((readFrom reserved load p turn files).records.filterMap (·.event.loaded?)).sum =
        (pairsInTurn load turn files).length := by
  induction files with
  | nil =>
    intro p turn h
    rw [readFrom, finish] at h ⊢
    split at h
    · rw [ending_log_bind, ending_pure] at h
      exact absurd h (by simp)
    · rename_i hentries
      rw [if_neg hentries]
      rfl
  | cons path rest ih =>
    intro p turn h
    cases fileStep reserved load p turn path rest with
    | foreign _ hstep | otherLayout _ _ hstep | defect _ _ _ _ hstep =>
      rw [hstep.ending, ending_pure] at h
      exact absurd h (by simp)
    | fault _ _ _ _ hstep =>
      rw [hstep.ending, ending_ask] at h
      exact absurd h (by simp)
    | otherLocale hlocation haccepts hdefault hstep =>
      rw [records_readFrom_of_other_locale hlocation haccepts hdefault, ih _ _ (hstep.ending ▸ h),
        pairsInTurn, pairsAt_of_other_locale hlocation hdefault]
      rfl
    | pairs hlocation haccepts hdefault hload hstep =>
      rw [records_readFrom_of_pairs hlocation haccepts hdefault hload, pairsInTurn,
        pairsAt_of_default hlocation hdefault hload, List.length_append, List.length_map,
        ← ih _ _ (hstep.ending ▸ h)]
      rfl

/-- Each of the pairs has an entry or a warning. -/
theorem loaded_readInTurn {files : List String} {catalog : Catalog}
    (h : (readInTurn reserved load files).ending = .ok (.ok catalog)) :
    ((readInTurn reserved load files).records.filterMap (·.event.loaded?)).sum =
      catalog.entries.length + catalog.warnings.length := by
  obtain ⟨hcontents, hwarnings⟩ := readInTurn_contents h
  have hentries : catalog.entries.length = (firsts (pairsInTurn load 0 files)).length := by
    rw [← List.length_map (f := Entry.content), hcontents, List.length_map]
  rw [hentries, hwarnings, List.length_map, length_firsts_add_length_repeats]
  exact loaded_readFrom files .initial 0 h

end Catalog

/-! ### The pass -/

/-- What a pass does behind its reading. -/
def conclude (o : ClassOptions) : Except Diagnostic Catalog → Step (Option Text)
  | .error d => do
    Step.report d
    Step.log (.passAborted d.kind)
    return none
  | .ok catalog => do
    Step.reportAll catalog.warnings
    Step.log (.passCompleted catalog.entries.length)
    return some (ClassSource.source o catalog.entries)

/-- What is logged behind a reading. -/
def closingEvents : Except Diagnostic Catalog → List Event
  | .error d => [.diagnosticReported d.kind, .passAborted d.kind]
  | .ok catalog => catalog.warnings.map (fun d => .diagnosticReported d.kind) ++
      [.passCompleted catalog.entries.length]

/-- What a reading comes to: a source, if it gives a catalog. -/
def outputOf (o : ClassOptions) : Except Diagnostic Catalog → Option Text
  | .error _ => none
  | .ok catalog => some (ClassSource.source o catalog.entries)

section

variable (o : ClassOptions) (files : List String) (load : Nat → Loader)

theorem generateWith_eq :
    generateWith o files load = Step.log (.passStarted o.namespaceName) >>= fun _ =>
      Catalog.readInTurn (reservedNames o.className) load files >>= conclude o := by
  rfl

theorem ending_conclude (result : Except Diagnostic Catalog) :
    (conclude o result).ending = .ok (outputOf o result) := by
  cases result with
  | error d => rfl
  | ok catalog => exact Step.ending_bind_of_ok (Step.ending_reportAll catalog.warnings) _

theorem events_conclude (result : Except Diagnostic Catalog) :
    (conclude o result).records.map (·.event) = closingEvents result := by
  cases result with
  | error d => rfl
  | ok catalog =>
    rw [conclude, Step.bind_of_ok (Step.ending_reportAll catalog.warnings), List.map_append,
      Step.events_reportAll]
    rfl

theorem logs_conclude (result : Except Diagnostic Catalog) :
    (conclude o result).Logs Event.IsOfPass := by
  have hreported : ∀ kind, (Event.diagnosticReported kind).IsOfPass := fun kind => by
    simp [Event.IsOfPass, Event.component]
  cases result with
  | error d =>
    refine .bind (Step.logs_report (hreported _)) fun _ => .bind (Step.logs_log ?_ rfl) fun _ =>
      Step.logs_pure _
    simp [Event.IsOfPass, Event.component]
  | ok catalog =>
    refine .bind (Step.logs_reportAll hreported) fun _ => .bind (Step.logs_log ?_ rfl) fun _ =>
      Step.logs_pure _
    simp [Event.IsOfPass, Event.component]

/-- **The part after the options** logs events of a pass. -/
theorem logs_generateWith : (generateWith o files load).Logs Event.IsOfPass := by
  rw [generateWith_eq]
  refine .bind (Step.logs_log (by simp [Event.IsOfPass, Event.component]) rfl) fun _ => ?_
  exact .bind ((Catalog.logs_readFrom _ load files .initial 0).mono
    fun _ => Event.IsOfReading.isOfPass) (logs_conclude o)

/-- After a fault of the reading nothing more is logged. -/
theorem generateWith_of_error {fault : Fault}
    (h : (Catalog.readInTurn (reservedNames o.className) load files).ending = .error fault) :
    (generateWith o files load).ending = .error fault ∧
      (generateWith o files load).records.map (·.event) = .passStarted o.namespaceName ::
        (Catalog.readInTurn (reservedNames o.className) load files).records.map (·.event) := by
  rw [generateWith_eq, Step.bind_of_ok (Step.ending_log _), Step.bind_of_error h]
  exact ⟨rfl, rfl⟩

/-- Behind a reading that ends, the pass says what it has ended with. -/
theorem generateWith_of_ok {result : Except Diagnostic Catalog}
    (h : (Catalog.readInTurn (reservedNames o.className) load files).ending = .ok result) :
    (generateWith o files load).ending = .ok (outputOf o result) ∧
      (generateWith o files load).records.map (·.event) = .passStarted o.namespaceName ::
        ((Catalog.readInTurn (reservedNames o.className) load files).records.map (·.event) ++
          closingEvents result) := by
  rw [generateWith_eq, Step.bind_of_ok (Step.ending_log _), Step.bind_of_ok h, List.map_append,
    List.map_append, events_conclude]
  exact ⟨ending_conclude o result, rfl⟩

end

end Phrasebook
