import Phrasebook.Proofs.Pass.Content

/-!
# What diagnostics quote

A diagnostic shows texts that the pass was given: a path, a key, the value of a property, the words
of a loader or of the reader of JSON5.  They are shown as they are, and nothing else in a diagnostic
has a line end in it:

* `Defect.quoted`, `singleLine_reason_iff` — what the reason of a defect quotes;
* `Quotes` — the texts that a diagnostic of a pass quotes, and where they come from;
* `exists_quotes_of_readOption`, `exists_quotes_of_reading`, `exists_quotes` — every diagnostic of a
  pass is one of these;
* `Quotes.singleLine_iff` — a diagnostic is on a single line exactly when what it quotes is.
-/

namespace Phrasebook

open Phrasebook.Naming Phrasebook.Text

/-! ### Quotations in reasons -/

/-- What the reason of a defect quotes. -/
def Defect.quoted : Defect → List Text
  | .cannotOpen message => [ofString message]
  | .notJson words => [ofString words]
  | .notObject => []
  | .notText key => [key]
  | .refused _ reason => [reason]

theorem singleLine_reason_iff (defect : Defect) :
    SingleLine defect.reason ↔ ∀ t ∈ defect.quoted, SingleLine t := by
  -- a reason that quotes a text has fixed words on both sides of it
  have hbetween : ∀ {before after : String} {t : Text}, SingleLine (ofString before) →
      SingleLine (ofString after) →
      (SingleLine (ofString before ++ t ++ ofString after) ↔ ∀ u ∈ [t], SingleLine u) := by
    intro before after t hbefore hafter
    rw [singleLine_append, singleLine_append, List.forall_mem_singleton]
    exact ⟨fun h => h.1.2, fun h => ⟨⟨hbefore, h⟩, hafter⟩⟩
  cases defect with
  | cannotOpen message =>
    exact hbetween (singleLine_ofList (by decide)) (singleLine_ofList (by decide))
  | notJson words =>
    exact hbetween (singleLine_ofList (by decide)) (singleLine_ofList (by decide))
  | notObject => exact iff_of_true (singleLine_ofList (by decide)) (List.forall_mem_nil _)
  | notText key =>
    exact hbetween (singleLine_ofList (by decide)) (singleLine_ofList (by decide))
  | refused path reason => exact (List.forall_mem_singleton).symm

/-- Of what is said about an option only its value can leave the line: the defect is folded into
one. -/
theorem singleLine_explain_iff (o : ClassOption) (raw : String) (defect : OptionDefect) :
    SingleLine (ofString (o.explain raw defect)) ↔ SingleLine (ofString raw) := by
  have htype : SingleLine (ofString o.typeName) := by
    cases o
    all_goals
      rw [ClassOption.typeName]
      exact singleLine_ofList (by decide)
  show SingleLine (ofString (_ ++ raw ++ _ ++ o.typeName ++ _ ++ oneLine defect.message)) ↔ _
  simp only [singleLine_ofString_append]
  constructor
  · intro h
    exact h.1.1.1.1.2
  · intro h
    exact ⟨⟨⟨⟨⟨singleLine_ofList (by decide), h⟩, singleLine_ofList (by decide)⟩, htype⟩,
      singleLine_ofList (by decide)⟩, singleLine_oneLine _⟩

/-! ### Quotations in diagnostics -/

/-- The texts that a diagnostic of a pass quotes, with what the pass was given. -/
inductive Quotes (s : Surroundings) (files : List String) : Diagnostic → List Text → Prop
  /-- The value that an option does not take, and the name of the assembly, if there is one. -/
  | option {o : ClassOption} {given assembly : Option String} {raw : String}
      {defect : OptionDefect} (hgiven : s.property (.value o) = .ok given)
      (hraw : nonBlank? given = some raw) (hdefect : o.parse raw = .error defect)
      (hassembly : s.property (.report o) = .ok assembly) :
      Quotes s files
        ⟨.invalidOption, [assembly.map ofString, some o.name, some (o.explain raw defect)]⟩
        (ofString raw :: (assembly.map ofString).toList)
  /-- A key that occurs again, and the file that it is in. -/
  | key {path : String} {key text : Text}
      (hrepeats : (path, key, text) ∈ repeats (pairsInTurn s.file 0 files)) :
      Quotes s files ⟨.duplicateKey, [some key, some path]⟩ [key, path]
  /-- The path of a file that fits no layout. -/
  | location {path : String} (hpath : path ∈ files) (hlocation : Location.ofPath? path = none) :
      Quotes s files ⟨.invalidLocation, [some path]⟩ [path]
  /-- The path that is blamed for a defect, and what the reason quotes. -/
  | content {turn : Nat} {path : String} {defect : Defect} (hpath : files[turn]? = some path)
      (hload : loadPairs (s.file turn) path = .ok (.error defect)) :
      Quotes s files
        ⟨.unreadableFile, [some (defect.pathOf path), some defect.reason]⟩
        (ofString (defect.pathOf path) :: defect.quoted)
  /-- Nothing: what is wrong is said in fixed words. -/
  | nothing {kind : DiagnosticKind} (hkind : kind.arity = 0) : Quotes s files ⟨kind, []⟩ []
  /-- Nothing: the account of a fault is folded into one line. -/
  | fault (fault : Fault) : Quotes s files (faultDiagnostic fault) []

variable {s : Surroundings} {files : List String}

/-- **A diagnostic is on a single line** exactly when what it quotes is. -/
theorem Quotes.singleLine_iff {d : Diagnostic} {quoted : List Text} (h : Quotes s files d quoted)
    {line : Text} (hrender : d.render = .ok line) :
    SingleLine line ↔ ∀ t ∈ quoted, SingleLine t := by
  rw [Diagnostic.singleLine_render_iff hrender]
  cases h with
  | @option o given assembly raw defect _ _ _ _ =>
    have hname : SingleLine (ofString o.name) := by
      cases o <;> exact singleLine_ofList (by decide)
    simp only [DiagnosticKind.arity, List.take_succ_cons, List.take_zero, List.mem_cons,
      List.not_mem_nil, or_false, Option.some.injEq, Option.mem_toList, forall_eq_or_imp]
    constructor
    · intro hall
      exact ⟨(singleLine_explain_iff o raw defect).mp (hall _ (.inr (.inr rfl))),
        fun t ht => hall t (.inl ht.symm)⟩
    · rintro ⟨hraw, hassembly⟩ t (ht | rfl | rfl)
      · exact hassembly t ht.symm
      · exact hname
      · exact (singleLine_explain_iff o raw defect).mpr hraw
  | key _ | location _ _ =>
    simp only [DiagnosticKind.arity, List.take_succ_cons, List.take_zero, List.mem_cons,
      List.not_mem_nil, or_false, Option.some.injEq]
  | @content turn path defect _ _ =>
    simp only [DiagnosticKind.arity, List.take_succ_cons, List.take_zero, List.mem_cons,
      List.not_mem_nil, or_false, Option.some.injEq, forall_eq_or_imp, forall_eq,
      singleLine_reason_iff]
  | nothing hkind =>
    rw [hkind]
    exact iff_of_true (fun t ht => absurd ht List.not_mem_nil) (List.forall_mem_nil _)
  | fault fault =>
    refine iff_of_true (fun t ht => ?_) (List.forall_mem_nil _)
    rw [show t = ofString (oneLine fault.describe) by
      simpa [faultDiagnostic, DiagnosticKind.arity] using ht]
    exact singleLine_oneLine _

/-! ### The diagnostics of a pass -/

/-- What holds of the diagnostics of two steps. -/
theorem Step.forall_mem_diagnostics_bind {α β : Type} {holds : Diagnostic → Prop} {p : Step α}
    {f : α → Step β} (hp : ∀ d ∈ p.diagnostics, holds d)
    (hf : ∀ a, p.ending = .ok a → ∀ d ∈ (f a).diagnostics, holds d) :
    ∀ d ∈ (p >>= f).diagnostics, holds d := by
  cases hending : p.ending with
  | error fault =>
    rw [bind_of_error hending]
    exact hp
  | ok a =>
    rw [bind_of_ok hending]
    exact List.forall_mem_append.mpr ⟨hp, hf a hending⟩

variable (s files)

/-- The warning about an option quotes its value and the name of the assembly. -/
theorem exists_quotes_of_readOption (o : ClassOption) :
    ∀ d ∈ (readOption s.property o).diagnostics, ∃ quoted, Quotes s files d quoted := by
  refine Step.forall_mem_diagnostics_bind (List.forall_mem_nil _) fun given hgiven => ?_
  split
  · exact List.forall_mem_nil _
  · rename_i raw hraw
    split
    · exact List.forall_mem_nil _
    · rename_i defect hdefect
      rw [Step.diagnostics_log_bind]
      refine Step.forall_mem_diagnostics_bind (List.forall_mem_nil _) fun assembly hassembly => ?_
      refine List.forall_mem_singleton.mpr
        ⟨ofString raw :: (assembly.map ofString).toList, ?_⟩
      have hquotes : Quotes s files _ _ := .option hgiven hraw hdefect hassembly
      cases assembly <;> exact hquotes

/-- Resolving the options quotes nothing else. -/
theorem exists_quotes_of_resolveWith :
    ∀ d ∈ (resolveWith s.property).diagnostics, ∃ quoted, Quotes s files d quoted := by
  refine Step.forall_mem_diagnostics_bind ?_ fun _ _ =>
    Step.forall_mem_diagnostics_bind (exists_quotes_of_readOption s files .className) fun _ _ =>
      Step.forall_mem_diagnostics_bind (exists_quotes_of_readOption s files .modifiers) fun _ _ =>
        List.forall_mem_nil _
  refine Step.forall_mem_diagnostics_bind (exists_quotes_of_readOption s files .namespaceName)
    fun given _ => ?_
  split
  · exact List.forall_mem_nil _
  · refine Step.forall_mem_diagnostics_bind (List.forall_mem_nil _) fun root _ => ?_
    split
    · exact List.forall_mem_nil _
    · exact Step.forall_mem_diagnostics_bind (List.forall_mem_nil _) fun _ _ =>
        List.forall_mem_nil _

/-- **What a reading ends with** quotes a path, and what a loader or a file says. -/
theorem exists_quotes_of_reading {reserved : List String} {d : Diagnostic}
    (before rest : List String) (hfiles : files = before ++ rest) :
    ∀ p, (Catalog.readFrom reserved s.file p before.length rest).ending = .ok (.error d) →
      ∃ quoted, Quotes s files d quoted := by
  induction rest generalizing before with
  | nil =>
    intro p h
    rw [Catalog.readFrom] at h
    by_cases hentries : p.entries = []
    · rw [Catalog.eq_of_ending_refused (Catalog.finish_of_nil hentries).ending h]
      refine ⟨[], .nothing ?_⟩
      split <;> rfl
    · rw [(Catalog.finish_of_ne_nil hentries).ending, Step.ending_pure] at h
      exact absurd h (by simp)
  | cons path rest ih =>
    intro p h
    have hturn : files[before.length]? = some path := by
      rw [hfiles, List.getElem?_append_right (Nat.le_refl _), Nat.sub_self]
      rfl
    -- the reading ends here with a report, or it goes on one turn later
    have hnext : ∀ p', (Catalog.readFrom reserved s.file p' (before.length + 1) rest).ending =
        .ok (.error d) → ∃ quoted, Quotes s files d quoted := by
      intro p' h'
      refine ih (before ++ [path]) (by rw [hfiles, List.append_assoc]; rfl) p' ?_
      rwa [List.length_append, List.length_singleton]
    cases Catalog.fileStep reserved s.file p before.length path rest with
    | foreign hlocation hstep =>
      rw [Catalog.eq_of_ending_refused hstep.ending h]
      exact ⟨_, .location (List.mem_of_getElem? hturn) hlocation⟩
    | otherLayout _ _ hstep =>
      rw [Catalog.eq_of_ending_refused hstep.ending h]
      exact ⟨_, .nothing rfl⟩
    | otherLocale _ _ _ hstep => exact hnext _ (hstep.ending ▸ h)
    | fault _ _ _ _ hstep =>
      rw [hstep.ending, Step.ending_ask] at h
      exact absurd h (by simp)
    | defect _ _ _ hload hstep =>
      rw [Catalog.eq_of_ending_refused hstep.ending h]
      exact ⟨_, .content hturn hload⟩
    | pairs _ _ _ _ hstep => exact hnext _ (hstep.ending ▸ h)

/-- The part of a pass after the options are known quotes paths, keys and what a file says. -/
theorem exists_quotes_of_generateWith (o : ClassOptions) :
    ∀ d ∈ (generateWith o files s.file).diagnostics, ∃ quoted, Quotes s files d quoted := by
  rw [generateWith, Step.diagnostics_log_bind]
  refine Step.forall_mem_diagnostics_bind ?_ fun result hread => ?_
  · rw [Catalog.diagnostics_readInTurn]
    exact List.forall_mem_nil _
  · cases result with
    | error d =>
      exact List.forall_mem_singleton.mpr
        (exists_quotes_of_reading s files [] files rfl .initial hread)
    | ok catalog =>
      refine Step.forall_mem_diagnostics_bind ?_ fun _ _ => List.forall_mem_nil _
      rw [Step.diagnostics_reportAll, (Catalog.readInTurn_contents hread).2, List.forall_mem_map]
      exact fun triple htriple => ⟨_, .key htriple⟩

/-- **Every diagnostic of a pass quotes what the pass was given**, if it quotes anything. -/
theorem exists_quotes :
    ∀ d ∈ (generateIn s files).diagnostics, ∃ quoted, Quotes s files d quoted := by
  have hsteps : ∀ d ∈ (passSteps s files).diagnostics, ∃ quoted, Quotes s files d quoted :=
    Step.forall_mem_diagnostics_bind (exists_quotes_of_resolveWith s files) fun o _ =>
      exists_quotes_of_generateWith s files o
  cases hending : (passSteps s files).ending with
  | ok output =>
    rw [(generateIn_of_ok hending).2]
    exact hsteps
  | error fault =>
    rw [(generateIn_of_error hending).2]
    exact List.forall_mem_append.mpr
      ⟨hsteps, List.forall_mem_singleton.mpr ⟨[], .fault fault⟩⟩

end Phrasebook
