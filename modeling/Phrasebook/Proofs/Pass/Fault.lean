import Phrasebook.Pass.Generation
import Phrasebook.Proofs.Locale.Reading

/-!
# Which faults end a pass

A pass ends with a fault exactly when a question that it asks is answered with this fault:

* `Surroundings.fault?` — the fault that a question is answered with;
* `Step.Faithful` — a step ends with the faults of its own questions and with no others, and this
  goes over from two steps to both together;
* `faithful_readOption`, `faithful_resolveWith`, `Catalog.faithful_readFrom`,
  `faithful_passSteps` — the parts of a pass, and the whole of it;
* `asked_passSteps_nodup` — no question is asked twice, so that each of them has its own answer;
* `exists_resolveWith_eq_error_iff`, `exists_passSteps_eq_error_iff` — what a fault goes back to;
  `exists_resolveWith_eq_ok`, properties that do not fail.
-/

namespace Phrasebook

/-- The fault that a question is answered with, if it is. -/
def Surroundings.fault? (s : Surroundings) : Question → Option Fault
  | .property purpose =>
    match s.property purpose with
    | .error fault => some fault
    | .ok _ => none
  | .file turn path =>
    match loadPairs (s.file turn) path with
    | .error fault => some fault
    | .ok _ => none

theorem Surroundings.fault?_property {s : Surroundings} {purpose : Purpose} {fault : Fault} :
    s.fault? (.property purpose) = some fault ↔ s.property purpose = .error fault := by
  unfold fault?
  simp only
  cases s.property purpose with
  | error other => simp
  | ok value => simp

theorem Surroundings.fault?_file {s : Surroundings} {turn : Nat} {path : String} {fault : Fault} :
    s.fault? (.file turn path) = some fault ↔ loadPairs (s.file turn) path = .error fault := by
  unfold fault?
  simp only
  cases loadPairs (s.file turn) path with
  | error other => simp
  | ok value => simp

namespace Step

variable {α β : Type}

/-- A step ends with a fault exactly when a question of it is answered with this fault. -/
def Faithful (s : Surroundings) (p : Step α) : Prop :=
  ∀ fault, p.ending = .error fault ↔ ∃ q ∈ p.asked, s.fault? q = some fault

/-- A step that asks nothing is faithful when it ends with a value. -/
theorem faithful_of_asked_eq_nil {s : Surroundings} {p : Step α} (hasked : p.asked = []) {a : α}
    (hending : p.ending = .ok a) : p.Faithful s := by
  intro fault
  rw [hasked, hending]
  simp

theorem faithful_pure (s : Surroundings) (a : α) : (Pure.pure a : Step α).Faithful s :=
  faithful_of_asked_eq_nil (asked_pure a) (ending_pure a)

theorem faithful_log (s : Surroundings) (e : Log.Event) : (log e).Faithful s :=
  faithful_of_asked_eq_nil rfl (ending_log e)

theorem faithful_reportAll (s : Surroundings) (ds : List Diagnostic) : (reportAll ds).Faithful s :=
  faithful_of_asked_eq_nil (asked_reportAll ds) (ending_reportAll ds)

theorem faithful_report (s : Surroundings) (d : Diagnostic) : (report d).Faithful s :=
  faithful_of_asked_eq_nil (asked_report d) (ending_report d)

/-- One question. -/
theorem faithful_ask {s : Surroundings} {q : Question} {answer : Except Fault α}
    (h : ∀ fault, s.fault? q = some fault ↔ answer = .error fault) :
    (ask q answer).Faithful s := by
  intro fault
  rw [ending_ask, asked_ask, ← h fault]
  simp

/-- **Two faithful steps are faithful together.** -/
theorem Faithful.bind {s : Surroundings} {p : Step α} {f : α → Step β} (hp : p.Faithful s)
    (hf : ∀ a, (f a).Faithful s) : (p >>= f).Faithful s := by
  intro fault
  cases hending : p.ending with
  | error other =>
    rw [bind_of_error hending]
    have hboth := hp fault
    rw [hending, Except.error.injEq] at hboth
    rw [Except.error.injEq]
    exact hboth
  | ok a =>
    rw [bind_of_ok hending]
    show (f a).ending = .error fault ↔ ∃ q ∈ p.asked ++ (f a).asked, s.fault? q = some fault
    rw [hf a fault]
    constructor
    · rintro ⟨q, hq, hfault⟩
      exact ⟨q, List.mem_append_right _ hq, hfault⟩
    · rintro ⟨q, hq, hfault⟩
      rcases List.mem_append.mp hq with hq | hq
      · -- no question of a step that went on has a fault
        have herror := (hp fault).mpr ⟨q, hq, hfault⟩
        rw [hending] at herror
        exact absurd herror (by simp)
      · exact ⟨q, hq, hfault⟩

end Step

/-! ### Options -/

section

open Step

variable (s : Surroundings)

theorem faithful_consult (purpose : Purpose) : (consult s.property purpose).Faithful s :=
  faithful_ask fun _ => Surroundings.fault?_property

theorem faithful_readOption (o : ClassOption) : (readOption s.property o).Faithful s := by
  refine (faithful_consult s _).bind fun given => ?_
  split
  · exact faithful_pure s _
  · split
    · exact faithful_pure s _
    · exact (faithful_log s _).bind fun _ => (faithful_consult s _).bind fun _ =>
        (faithful_report s _).bind fun _ => faithful_pure s _

theorem faithful_resolveNamespace : (resolveNamespace s.property).Faithful s := by
  refine (faithful_readOption s .namespaceName).bind fun given => ?_
  split
  · exact faithful_pure s _
  · refine (faithful_consult s _).bind fun root => ?_
    split
    · exact faithful_pure s _
    · exact (faithful_consult s _).bind fun _ => faithful_pure s _

/-- **Resolving the options is faithful.** -/
theorem faithful_resolveWith : (resolveWith s.property).Faithful s :=
  (faithful_resolveNamespace s).bind fun _ => (faithful_readOption s .className).bind fun _ =>
    (faithful_readOption s .modifiers).bind fun _ => faithful_pure s _

/-! ### Files -/

theorem Catalog.faithful_finish (p : Progress) : (finish p).Faithful s := by
  unfold Catalog.finish
  split
  · exact (faithful_log s _).bind fun _ => faithful_pure s _
  · exact faithful_pure s _

/-- **A reading is faithful.** -/
theorem Catalog.faithful_readFrom (reserved : List String) (files : List String) :
    ∀ p turn, (readFrom reserved s.file p turn files).Faithful s := by
  induction files with
  | nil => exact fun p _ => faithful_finish s p
  | cons path rest ih =>
    intro p turn
    unfold readFrom
    split
    · exact (faithful_log s _).bind fun _ => faithful_pure s _
    · split
      · exact (faithful_log s _).bind fun _ => faithful_pure s _
      · split
        · exact ih _ _
        · refine (faithful_ask fun _ => Surroundings.fault?_file).bind fun answer => ?_
          split
          · exact (faithful_log s _).bind fun _ => faithful_pure s _
          · exact (faithful_log s _).bind fun _ => ih _ _

/-! ### The whole pass -/

theorem faithful_generateWith (o : ClassOptions) (files : List String) :
    (generateWith o files s.file).Faithful s := by
  refine (faithful_log s _).bind fun _ => ?_
  refine (Catalog.faithful_readFrom s _ files .initial 0).bind fun result => ?_
  split
  · exact (faithful_report s _).bind fun _ => (faithful_log s _).bind fun _ => faithful_pure s _
  · exact (faithful_reportAll s _).bind fun _ => (faithful_log s _).bind fun _ => faithful_pure s _

/-- **A pass is faithful.** -/
theorem faithful_passSteps (files : List String) : (passSteps s files).Faithful s :=
  (faithful_resolveWith s).bind fun o => faithful_generateWith s o files

end

/-! ### No question is asked twice -/

/-- What may be asked about an option. -/
def optionQuestions (o : ClassOption) : List Question :=
  [.property (.value o), .property (.report o)]

/-- What may be asked to find a namespace where no option gives it. -/
def fallbackQuestions : List Question :=
  [.property .rootNamespace, .property .assemblyName]

/-- What may be asked to resolve the options, in this order. -/
def propertyQuestions : List Question :=
  (optionQuestions .namespaceName ++ fallbackQuestions) ++
    (optionQuestions .className ++ optionQuestions .modifiers)

/-- What may be asked to read files from a turn on, in this order. -/
def fileQuestions : Nat → List String → List Question
  | _, [] => []
  | turn, path :: rest => .file turn path :: fileQuestions (turn + 1) rest

theorem asked_readOption_sublist (answers : Answers) (o : ClassOption) :
    (readOption answers o).asked.Sublist (optionQuestions o) := by
  show List.Sublist _ ([Question.property (.value o)] ++ [Question.property (.report o)])
  refine Step.asked_bind_sublist (List.Sublist.refl _) fun given _ => ?_
  split
  · exact List.nil_sublist _
  · split
    · exact List.nil_sublist _
    · rw [Step.asked_log_bind]
      exact Step.asked_bind_sublist_left fun _ => rfl

theorem asked_resolveNamespace_sublist (answers : Answers) :
    (resolveNamespace answers).asked.Sublist
      (optionQuestions .namespaceName ++ fallbackQuestions) := by
  refine Step.asked_bind_sublist (asked_readOption_sublist answers .namespaceName) fun given _ => ?_
  split
  · exact List.nil_sublist _
  · show List.Sublist _ ([Question.property .rootNamespace] ++ [Question.property .assemblyName])
    refine Step.asked_bind_sublist (List.Sublist.refl _) fun root _ => ?_
    split
    · exact List.nil_sublist _
    · exact Step.asked_bind_sublist_left fun _ => rfl

theorem asked_resolveWith_sublist (answers : Answers) :
    (resolveWith answers).asked.Sublist propertyQuestions := by
  refine Step.asked_bind_sublist (asked_resolveNamespace_sublist answers) fun _ _ => ?_
  refine Step.asked_bind_sublist (asked_readOption_sublist answers .className) fun _ _ => ?_
  exact (Step.asked_bind_sublist_left fun _ => rfl).trans
    (asked_readOption_sublist answers .modifiers)

theorem Catalog.asked_readFrom_sublist (reserved : List String) (load : Nat → Loader)
    (files : List String) : ∀ p turn,
      (readFrom reserved load p turn files).asked.Sublist (fileQuestions turn files) := by
  induction files with
  | nil =>
    intro p turn
    rw [readFrom, asked_finish]
    exact List.Sublist.refl []
  | cons path rest ih =>
    intro p turn
    unfold readFrom
    split
    · exact List.nil_sublist _
    · split
      · exact List.nil_sublist _
      · split
        · exact (ih _ _).cons _
        · show List.Sublist _ ([Question.file turn path] ++ fileQuestions (turn + 1) rest)
          refine Step.asked_bind_sublist (List.Sublist.refl _) fun answer _ => ?_
          split
          · exact List.nil_sublist _
          · exact ih _ _

/-- Nothing is asked for behind the reading. -/
theorem asked_generateWith_sublist_readInTurn (o : ClassOptions) (files : List String)
    (load : Nat → Loader) :
    (generateWith o files load).asked.Sublist
      (Catalog.readInTurn (Naming.reservedNames o.className) load files).asked := by
  rw [generateWith, Step.asked_log_bind]
  refine Step.asked_bind_sublist_left fun result => ?_
  split
  · rfl
  · rw [Step.bind_of_ok (Step.ending_reportAll _), Step.asked_reportAll]
    rfl

theorem asked_generateWith_sublist (o : ClassOptions) (files : List String)
    (load : Nat → Loader) :
    (generateWith o files load).asked.Sublist (fileQuestions 0 files) :=
  (asked_generateWith_sublist_readInTurn o files load).trans
    (Catalog.asked_readFrom_sublist _ load files .initial 0)

/-- What a pass asks, in this order. -/
theorem asked_passSteps_sublist (s : Surroundings) (files : List String) :
    (passSteps s files).asked.Sublist (propertyQuestions ++ fileQuestions 0 files) :=
  Step.asked_bind_sublist (asked_resolveWith_sublist s.property) fun o _ =>
    asked_generateWith_sublist o files s.file

theorem turn_le_of_mem_fileQuestions {q : Question} {files : List String} :
    ∀ {turn}, q ∈ fileQuestions turn files → ∃ later path, turn ≤ later ∧ q = .file later path := by
  induction files with
  | nil => exact fun h => absurd h List.not_mem_nil
  | cons path rest ih =>
    intro turn h
    rcases List.mem_cons.mp h with rfl | h
    · exact ⟨turn, path, Nat.le_refl turn, rfl⟩
    · obtain ⟨later, other, hle, rfl⟩ := ih h
      exact ⟨later, other, Nat.le_of_succ_le hle, rfl⟩

theorem fileQuestions_nodup (files : List String) : ∀ turn, (fileQuestions turn files).Nodup := by
  induction files with
  | nil => exact fun _ => List.nodup_nil
  | cons path rest ih =>
    intro turn
    refine List.nodup_cons.mpr ⟨fun hmem => ?_, ih (turn + 1)⟩
    obtain ⟨later, other, hle, heq⟩ := turn_le_of_mem_fileQuestions hmem
    rw [Question.file.injEq] at heq
    omega

/-- No file is asked for to resolve the options. -/
theorem exists_property_of_mem_propertyQuestions :
    ∀ q ∈ propertyQuestions, ∃ purpose, q = .property purpose := by
  simp [propertyQuestions, optionQuestions, fallbackQuestions]

/-- **No question is asked twice.** -/
theorem asked_passSteps_nodup (s : Surroundings) (files : List String) :
    (passSteps s files).asked.Nodup := by
  refine (asked_passSteps_sublist s files).nodup (List.nodup_append.mpr
    ⟨by decide, fileQuestions_nodup files 0, fun q hq other hother heq => ?_⟩)
  obtain ⟨later, path, -, rfl⟩ := turn_le_of_mem_fileQuestions hother
  obtain ⟨purpose, rfl⟩ := exists_property_of_mem_propertyQuestions q hq
  exact absurd heq (by simp)

/-! ### What is behind a fault -/

/-- A file is answered with a fault exactly when loading it fails in an unforeseen way, or it is
loaded and nests values too deeply. -/
theorem exists_loadPairs_eq_error_iff {load : Loader} {path : String} :
    (∃ fault, loadPairs load path = .error fault) ↔
      (∃ fault, load path = .error (.fault fault)) ∨
        ∃ text, load path = .ok text ∧ Json5.parse text = .error .tooDeep := by
  unfold loadPairs
  cases hload : load path with
  | error e =>
    cases e with
    | fault fault => simp
    | unavailable message => simp
    | refused blamed reason => simp
  | ok text =>
    unfold pairsOf
    simp only
    cases hparse : Json5.parse text with
    | ok v => simp [hparse]
    | error trouble => cases trouble <;> simp [hparse]

/-- A property is asked for only to resolve the options. -/
theorem mem_asked_passSteps_property {s : Surroundings} {files : List String} {purpose : Purpose} :
    .property purpose ∈ (passSteps s files).asked ↔
      .property purpose ∈ (resolveWith s.property).asked := by
  unfold passSteps
  cases hresolve : (resolveWith s.property).ending with
  | error fault => rw [Step.bind_of_error hresolve]
  | ok o =>
    rw [Step.bind_of_ok hresolve]
    refine ⟨fun h => (List.mem_append.mp h).resolve_right fun hfile => ?_,
      fun h => List.mem_append_left _ h⟩
    obtain ⟨turn, path, -, heq⟩ :=
      turn_le_of_mem_fileQuestions ((asked_generateWith_sublist o files s.file).subset hfile)
    exact absurd heq (by simp)

/-- **The options cannot be resolved** exactly when a property that is asked for fails. -/
theorem exists_resolveWith_eq_error_iff {s : Surroundings} {files : List String} :
    (∃ fault, (resolveWith s.property).ending = .error fault) ↔
      ∃ purpose fault, .property purpose ∈ (passSteps s files).asked ∧
        s.property purpose = .error fault := by
  constructor
  · rintro ⟨fault, h⟩
    obtain ⟨q, hq, hfault⟩ := (faithful_resolveWith s fault).mp h
    obtain ⟨purpose, rfl⟩ := exists_property_of_mem_propertyQuestions q
      ((asked_resolveWith_sublist s.property).subset hq)
    exact ⟨purpose, fault, mem_asked_passSteps_property.mpr hq,
      Surroundings.fault?_property.mp hfault⟩
  · rintro ⟨purpose, fault, hq, hfault⟩
    exact ⟨fault, (faithful_resolveWith s fault).mpr ⟨_, mem_asked_passSteps_property.mp hq,
      Surroundings.fault?_property.mpr hfault⟩⟩

/-- Properties that do not fail always give options. -/
theorem exists_resolveWith_eq_ok (given : Purpose → Option String) :
    ∃ o, (resolveWith fun purpose => .ok (given purpose)).ending = .ok o := by
  have hnever := @exists_resolveWith_eq_error_iff
    ⟨fun purpose => .ok (given purpose), fun _ _ => .ok ""⟩ []
  cases hending : (resolveWith fun purpose => .ok (given purpose)).ending with
  | error fault =>
    obtain ⟨purpose, other, -, hanswer⟩ := hnever.mp ⟨fault, hending⟩
    exact absurd hanswer (by simp)
  | ok o => exact ⟨o, rfl⟩

/-- **A pass ends with a fault** exactly when a property that is asked for fails, or a file that is
loaded fails in an unforeseen way or nests values too deeply. -/
theorem exists_passSteps_eq_error_iff {s : Surroundings} {files : List String} :
    (∃ fault, (passSteps s files).ending = .error fault) ↔
      (∃ purpose fault, .property purpose ∈ (passSteps s files).asked ∧
        s.property purpose = .error fault) ∨
      (∃ turn path fault, .file turn path ∈ (passSteps s files).asked ∧
        s.file turn path = .error (.fault fault)) ∨
      (∃ turn path text, .file turn path ∈ (passSteps s files).asked ∧
        s.file turn path = .ok text ∧ Json5.parse text = .error .tooDeep) := by
  constructor
  · rintro ⟨fault, h⟩
    obtain ⟨q, hq, hfault⟩ := (faithful_passSteps s files fault).mp h
    cases q with
    | property purpose =>
      exact .inl ⟨purpose, fault, hq, Surroundings.fault?_property.mp hfault⟩
    | file turn path =>
      obtain ⟨reason, hload⟩ | ⟨text, hload, hparse⟩ :=
        exists_loadPairs_eq_error_iff.mp ⟨fault, Surroundings.fault?_file.mp hfault⟩
      · exact .inr (.inl ⟨turn, path, reason, hq, hload⟩)
      · exact .inr (.inr ⟨turn, path, text, hq, hload, hparse⟩)
  · have hfile : ∀ {turn path}, .file turn path ∈ (passSteps s files).asked →
        (∃ fault, loadPairs (s.file turn) path = .error fault) →
        ∃ fault, (passSteps s files).ending = .error fault := by
      rintro turn path hq ⟨fault, hfault⟩
      exact ⟨fault, (faithful_passSteps s files fault).mpr
        ⟨_, hq, Surroundings.fault?_file.mpr hfault⟩⟩
    rintro (⟨purpose, fault, hq, hfault⟩ | ⟨turn, path, fault, hq, hload⟩ |
      ⟨turn, path, text, hq, hload, hparse⟩)
    · exact ⟨fault, (faithful_passSteps s files fault).mpr
        ⟨_, hq, Surroundings.fault?_property.mpr hfault⟩⟩
    · exact hfile hq (exists_loadPairs_eq_error_iff.mpr (.inl ⟨fault, hload⟩))
    · exact hfile hq (exists_loadPairs_eq_error_iff.mpr (.inr ⟨text, hload, hparse⟩))

end Phrasebook
