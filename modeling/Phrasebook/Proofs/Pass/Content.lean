import Phrasebook.Proofs.Locale.Offence
import Phrasebook.Proofs.Pass.Shape
import Phrasebook.Proofs.Text.Bytes

/-!
# What becomes of the content of a file

A file of the default locale gives keys and texts, or it is reported with its path, or a fault
ends the pass.  For files whose bytes are known this section says which bytes lead to which:

* `Unforeseen`, `exists_loadPairs_ofBytes_eq_error_iff` — bytes that lead to a fault: they are no
  text, or a text that nests values too deeply;
* `Catalog.readFrom_of_asked_defect` — a file that is loaded and gives no keys and texts ends the
  reading;
* `generateIn_of_refusal` — what a reading ends with is the only error of a pass;
* `generateIn_of_content` — all of this for a pass, and `generateIn_of_lone_byte`, a file of one
  byte that is not reported as a file.
-/

namespace Phrasebook

open Phrasebook.Naming Phrasebook.Text

/-! ### The content of one file -/

/-- Bytes of a file that no report on the file foresees: they are no text, or the text that they
are nests values more deeply than is read. -/
def Unforeseen (bytes : ByteArray) : Prop :=
  Undecodable bytes ∨ ∃ text, readText bytes = some text ∧ Json5.parse text = .error .tooDeep

section

variable {bytes? : String → Option ByteArray} {path : String}

/-- A file whose bytes are known fails in an unforeseen way only if its bytes are no text. -/
theorem exists_ofBytes_eq_fault_iff :
    (∃ fault, Loader.ofBytes bytes? path = .error (.fault fault)) ↔
      ∃ bytes, bytes? path = some bytes ∧ Undecodable bytes := by
  unfold Loader.ofBytes
  cases hbytes : bytes? path with
  | none => simp
  | some bytes =>
    simp only [Option.some.injEq, exists_eq_left', ← readText_eq_none_iff]
    cases readText bytes with
    | none => simp
    | some text => simp

theorem ofBytes_eq_ok_iff {text : String} :
    Loader.ofBytes bytes? path = .ok text ↔
      ∃ bytes, bytes? path = some bytes ∧ readText bytes = some text := by
  unfold Loader.ofBytes
  cases hbytes : bytes? path with
  | none => simp
  | some bytes =>
    simp only [Option.some.injEq, exists_eq_left']
    cases readText bytes with
    | none => simp
    | some other => simp

/-- **Which bytes lead to a fault.** -/
theorem exists_loadPairs_ofBytes_eq_error_iff :
    (∃ fault, loadPairs (.ofBytes bytes?) path = .error fault) ↔
      ∃ bytes, bytes? path = some bytes ∧ Unforeseen bytes := by
  rw [exists_loadPairs_eq_error_iff, exists_ofBytes_eq_fault_iff]
  constructor
  · rintro (⟨bytes, hbytes, hnone⟩ | ⟨text, htext, hparse⟩)
    · exact ⟨bytes, hbytes, .inl hnone⟩
    · obtain ⟨bytes, hbytes, hread⟩ := ofBytes_eq_ok_iff.mp htext
      exact ⟨bytes, hbytes, .inr ⟨text, hread, hparse⟩⟩
  · rintro ⟨bytes, hbytes, hnone | ⟨text, hread, hparse⟩⟩
    · exact .inl ⟨bytes, hbytes, hnone⟩
    · exact .inr ⟨text, ofBytes_eq_ok_iff.mpr ⟨bytes, hbytes, hread⟩, hparse⟩

/-- What is wrong with a file whose bytes are known is the fault of this file. -/
theorem pathOf_of_ofBytes {defect : Defect}
    (h : loadPairs (.ofBytes bytes?) path = .ok (.error defect)) : defect.pathOf path = path := by
  unfold loadPairs at h
  split at h
  · exact absurd h (by simp)
  · rw [Except.ok.injEq, Except.error.injEq] at h
    rw [← h]
    rfl
  · rename_i blamed reason hload
    unfold Loader.ofBytes at hload
    split at hload
    · exact absurd hload (by simp)
    · split at hload
      · exact absurd hload (by simp)
      · exact absurd hload (by simp)
  · exact pathOf_of_pairsOf h path

end

/-! ### A reading that a file ends -/

/-- **A file that is loaded and gives no keys and texts** ends the reading, with its report. -/
theorem Catalog.readFrom_of_asked_defect {reserved : List String} {load : Nat → Loader}
    {later : Nat} {path : String} {defect : Defect}
    (hload : loadPairs (load later) path = .ok (.error defect)) (files : List String) :
    ∀ p turn, .file later path ∈ (readFrom reserved load p turn files).asked →
      (readFrom reserved load p turn files).ending =
        .ok (.error ⟨.unreadableFile, [some (defect.pathOf path), some defect.reason]⟩) := by
  induction files with
  | nil =>
    intro p turn hasked
    rw [readFrom, asked_finish] at hasked
    exact absurd hasked List.not_mem_nil
  | cons first rest ih =>
    intro p turn hasked
    -- the answer to the question about the first file settles the case, or the reading goes on
    cases fileStep reserved load p turn first rest with
    | foreign _ hstep | otherLayout _ _ hstep =>
      rw [hstep.asked] at hasked
      exact absurd hasked List.not_mem_nil
    | otherLocale _ _ _ hstep =>
      rw [hstep.asked] at hasked
      rw [hstep.ending]
      exact ih _ _ hasked
    | fault _ _ _ hother hstep =>
      rw [hstep.asked, List.nil_append, Step.asked_ask, List.mem_singleton,
        Question.file.injEq] at hasked
      rw [← hasked.1, ← hasked.2, hload] at hother
      exact absurd hother (by simp)
    | defect _ _ _ hother hstep =>
      rw [hstep.asked, Step.asked_pure, List.append_nil, List.mem_singleton,
        Question.file.injEq] at hasked
      rw [← hasked.1, ← hasked.2, hload, Except.ok.injEq, Except.error.injEq] at hother
      rw [hstep.ending, ← hother, ← hasked.2]
      rfl
    | pairs _ _ _ hother hstep =>
      rw [hstep.asked, List.singleton_append, List.mem_cons, Question.file.injEq] at hasked
      obtain ⟨hturn, hpath⟩ | hasked := hasked
      · rw [← hturn, ← hpath, hload] at hother
        exact absurd hother (by simp)
      · rw [hstep.ending]
        exact ih _ _ hasked

/-! ### The pass -/

variable {s : Surroundings} {files : List String}

/-- A file is asked for only to read the catalog, when the options are known. -/
theorem exists_asked_readInTurn {turn : Nat} {path : String}
    (h : .file turn path ∈ (passSteps s files).asked) :
    ∃ o, (resolveWith s.property).ending = .ok o ∧
      .file turn path ∈ (Catalog.readInTurn (reservedNames o.className) s.file files).asked := by
  have hproperty : .file turn path ∉ (resolveWith s.property).asked := by
    intro hmem
    obtain ⟨purpose, hpurpose⟩ := exists_property_of_mem_propertyQuestions _
      ((asked_resolveWith_sublist s.property).subset hmem)
    exact absurd hpurpose (by simp)
  unfold passSteps at h
  cases hresolve : (resolveWith s.property).ending with
  | error fault =>
    rw [Step.bind_of_error hresolve] at h
    exact absurd h hproperty
  | ok o =>
    rw [Step.bind_of_ok hresolve] at h
    refine ⟨o, rfl, ?_⟩
    have hrest := (List.mem_append.mp h).resolve_left hproperty
    exact (asked_generateWith_sublist_readInTurn o files s.file).subset hrest

/-- **What a reading ends with is the only error of a pass.** -/
theorem generateIn_of_refusal {o : ClassOptions} {d : Diagnostic}
    (ho : (resolveWith s.property).ending = .ok o)
    (hread : (Catalog.readInTurn (reservedNames o.className) s.file files).ending =
      .ok (.error d)) :
    (generateIn s files).output = none ∧ (generateIn s files).errors = [d] := by
  have hrefusal : Catalog.Refusal d :=
    Catalog.refusal_of_readFrom _ s.file files .initial 0 hread
  have hrest : (generateWith o files s.file).ending = .ok none ∧
      (generateWith o files s.file).diagnostics = [d] := by
    rw [generateWith, Step.ending_log_bind, Step.diagnostics_log_bind, Step.bind_of_ok hread]
    refine ⟨rfl, ?_⟩
    rw [Catalog.diagnostics_readInTurn]
    rfl
  have hpass : (passSteps s files).ending = .ok none ∧
      (passSteps s files).diagnostics = (resolveWith s.property).diagnostics ++ [d] := by
    unfold passSteps
    rw [Step.bind_of_ok ho, Step.ending_within, Step.diagnostics_within, hrest.1, hrest.2]
    exact ⟨rfl, rfl⟩
  obtain ⟨houtput, hdiagnostics⟩ := generateIn_of_ok hpass.1
  refine ⟨houtput, errors_of_diagnostics (hdiagnostics.trans hpass.2) (fun e he => ?_)
    (List.forall_mem_singleton.mpr hrefusal.isError)⟩
  rw [Diagnostic.isError, (warnsOf_resolveWith s.property).kind e he]
  decide

/-- Properties, and files whose bytes are known in each turn. -/
def Surroundings.ofBytes (property : Answers) (bytes? : Nat → String → Option ByteArray) :
    Surroundings :=
  ⟨property, fun turn => .ofBytes (bytes? turn)⟩

/-- **What becomes of the content of a file**, whatever bytes there are at each path and in each
turn.

* A file gives keys and texts, or a defect of its own, unless its bytes are no text or a text that
  nests values too deeply: only then there is a fault.
* In a pass, the file that is loaded and has a defect is reported, with its path and the reason, and
  no other error is.
* A fault is reported exactly when a property that was asked for failed, or a file was loaded with
  such bytes. -/
theorem generateIn_of_content (property : Answers) (bytes? : Nat → String → Option ByteArray)
    (files : List String) :
    (∀ turn path,
      ((∃ fault, loadPairs (.ofBytes (bytes? turn)) path = .error fault) ↔
        ∃ bytes, bytes? turn path = some bytes ∧ Unforeseen bytes) ∧
      ∀ defect, loadPairs (.ofBytes (bytes? turn)) path = .ok (.error defect) →
        defect.pathOf path = path) ∧
    (∀ turn path defect,
      .file turn path ∈ (passSteps (.ofBytes property bytes?) files).asked →
      loadPairs (.ofBytes (bytes? turn)) path = .ok (.error defect) →
      (generateIn (.ofBytes property bytes?) files).output = none ∧
      (generateIn (.ofBytes property bytes?) files).errors =
        [⟨.unreadableFile, [some path, some defect.reason]⟩]) ∧
    ((∃ d ∈ (generateIn (.ofBytes property bytes?) files).diagnostics,
        d.kind = .unexpectedFault) ↔
      (∃ purpose fault, .property purpose ∈ (passSteps (.ofBytes property bytes?) files).asked ∧
        property purpose = .error fault) ∨
      ∃ turn path bytes, .file turn path ∈ (passSteps (.ofBytes property bytes?) files).asked ∧
        bytes? turn path = some bytes ∧ Unforeseen bytes) := by
  refine ⟨fun turn path => ⟨exists_loadPairs_ofBytes_eq_error_iff, fun defect => pathOf_of_ofBytes⟩,
    ?_, ?_⟩
  · intro turn path defect hasked hload
    obtain ⟨o, ho, hread⟩ := exists_asked_readInTurn hasked
    have hending : (Catalog.readInTurn (reservedNames o.className)
        (Surroundings.ofBytes property bytes?).file files).ending = _ :=
      Catalog.readFrom_of_asked_defect hload files .initial 0 hread
    rw [pathOf_of_ofBytes hload] at hending
    exact generateIn_of_refusal ho hending
  · rw [exists_unexpectedFault_iff]
    constructor
    · rintro ⟨fault, hending⟩
      obtain ⟨q, hq, hfault⟩ := (faithful_passSteps _ files fault).mp hending
      cases q with
      | property purpose =>
        exact .inl ⟨purpose, fault, hq, Surroundings.fault?_property.mp hfault⟩
      | file turn path =>
        obtain ⟨bytes, hbytes, hunforeseen⟩ := exists_loadPairs_ofBytes_eq_error_iff.mp
          ⟨fault, Surroundings.fault?_file.mp hfault⟩
        exact .inr ⟨turn, path, bytes, hq, hbytes, hunforeseen⟩
    · rintro (⟨purpose, fault, hq, hfault⟩ | ⟨turn, path, bytes, hq, hbytes, hunforeseen⟩)
      · exact ⟨fault, (faithful_passSteps _ files fault).mpr
          ⟨_, hq, Surroundings.fault?_property.mpr hfault⟩⟩
      · obtain ⟨fault, hfault⟩ := exists_loadPairs_ofBytes_eq_error_iff.mpr
          ⟨bytes, hbytes, hunforeseen⟩
        exact ⟨fault, (faithful_passSteps _ files fault).mpr
          ⟨_, hq, Surroundings.fault?_file.mpr hfault⟩⟩

/-- A project without properties, whose files all have these bytes. -/
def uniformProject (bytes : List UInt8) : Surroundings :=
  .ofBytes (fun _ => .ok none) fun _ _ => some ⟨bytes.toArray⟩

/-- A file of an opening and a closing bracket is reported for what it is. -/
theorem generateIn_of_content_brackets :
    (generateIn (uniformProject [0x5b, 0x5d]) ["i18n/default.json"]).errors =
      [⟨.unreadableFile, [some "i18n/default.json", some Defect.notObject.reason]⟩] := by
  obtain ⟨-, hdefect, -⟩ := generateIn_of_content (fun _ => .ok none)
    (fun _ _ => some ⟨[0x5b, 0x5d].toArray⟩) ["i18n/default.json"]
  exact (hdefect 0 "i18n/default.json" .notObject (by decide +kernel) (by decide +kernel)).2

/-- **A file of one byte that is no text** is not reported as a file: the pass ends with a fault. -/
theorem generateIn_of_lone_byte :
    loadPairs ((uniformProject [0xff]).file 0) "i18n/default.json" = .error .undecodable ∧
      (generateIn (uniformProject [0xff]) ["i18n/default.json"]).errors =
        [faultDiagnostic .undecodable] := by
  decide +kernel

end Phrasebook
