import Phrasebook.Proofs.Command.Run
import Phrasebook.Proofs.Pass.Quotation

/-!
# The lines that show diagnostics

A run shows each diagnostic of its pass as its severity, its code and its message, and ends the line
there.  Whether this is one line depends on what the message quotes, and on nothing else:

* `BrokenOnlyByQuotes` — the line of a diagnostic, and what can break it;
* `diagnostics_on_one_line` — so it is for all diagnostics of a pass, and for the lines of a run;
* `sharedProject`, `BrokenOnlyByQuotes.of_sharedProject` — a project with a name that is refused and
  with a repeated key;
* `class_name_on_two_lines` — a property whose value takes its message over two lines.
-/

namespace Phrasebook

open Phrasebook.Text Phrasebook.Command Phrasebook.Catalog

/-- The line of a diagnostic has its severity, its code and its message, and only what the message
quotes can break it: it is a single one exactly when every text is that is quoted. -/
def BrokenOnlyByQuotes (s : Surroundings) (files : List String) (d : Diagnostic) (line : Text) :
    Prop :=
  ∃ message quoted, d.message = .ok message ∧
    line = ofString (d.kind.severity.name ++ " " ++ d.kind.id ++ ": ") ++ message ∧
    Quotes s files d quoted ∧ (SingleLine line ↔ ∀ t ∈ quoted, SingleLine t)

theorem exists_brokenOnlyByQuotes {s : Surroundings} {files : List String} {d : Diagnostic}
    (h : d ∈ (generateIn s files).diagnostics) :
    ∃ line, d.render = .ok line ∧ BrokenOnlyByQuotes s files d line := by
  obtain ⟨line, hrender⟩ := exists_render_of_mem_diagnostics h
  obtain ⟨quoted, hquotes⟩ := exists_quotes s files d h
  have hline := hquotes.singleLine_iff hrender
  cases hmessage : d.message with
  | error n => exact absurd hrender (by simp [Diagnostic.render, hmessage, Except.map])
  | ok message =>
    refine ⟨line, hrender, message, quoted, hmessage, ?_, hquotes, hline⟩
    rw [Diagnostic.render, hmessage, Except.map, Except.ok.injEq] at hrender
    exact hrender.symm

/-- **When diagnostics are shown on one line.**

* Every diagnostic of a pass has a line, with its severity, its code and its message.  What the
  message quotes are properties, keys, paths and the words of loaders and of the reader of JSON5, as
  the pass was given them; the line is a single one exactly when all of them are.
* A run with this pass shows its diagnostics with these lines, in their order, without control
  sequences; a line of the run is a single one exactly when that of the diagnostic is.  If all are,
  there are as many lines in what the run shows as there are diagnostics. -/
theorem diagnostics_on_one_line (s : Surroundings) (files : List String) :
    (∀ d ∈ (generateIn s files).diagnostics,
      ∃ line, d.render = .ok line ∧ BrokenOnlyByQuotes s files d line) ∧
    ∀ (h : Host) (r : GenerateRequest) (project : Path) (place : Place)
      (properties : Bindings String String),
      s = .steady (fun name => .ok (properties.get? name)) (h.loader place) →
      List.Forall₂
        (fun d shownLine => ∃ line, shownLine = shown line ∧ BrokenOnlyByQuotes s files d line ∧
          (SingleLine (ofString shownLine) ↔ SingleLine line))
        (generateIn s files).diagnostics
        (runPass h r project place properties files).diagnosticLines ∧
      ((∀ line ∈ plain (runPass h r project place properties files).diagnosticLines,
          SingleLine line) →
        (unlines (plain (runPass h r project place properties files).diagnosticLines)).splitOn
            (.char '\n') =
          plain (runPass h r project place properties files).diagnosticLines ++ [[]]) := by
  refine ⟨fun d hd => exists_brokenOnlyByQuotes hd, ?_⟩
  rintro h r project place properties rfl
  refine ⟨?_, splitOn_unlines_of_singleLine⟩
  -- each line goes with its diagnostic, and each diagnostic is one of the pass
  have hlines : List.Forall₂ _
      (generate (fun name => .ok (properties.get? name)) (h.loader place) files).diagnostics
      (runPass h r project place properties files).diagnosticLines :=
    forall₂_diagnosticLines fun d hd => exists_render_of_mem_diagnostics hd
  refine ((List.forall₂_and_left _ _).mpr ⟨fun d hd => hd, hlines⟩).imp ?_
  rintro d shownLine ⟨hd, text, hrender, hshown⟩
  obtain ⟨line, hline, hone⟩ := exists_brokenOnlyByQuotes hd
  obtain rfl := Except.ok.inj (hline.symm.trans hrender)
  exact ⟨line, hshown, hone, hshown ▸ singleLine_shown_iff⟩

/-- A project with two files of the default locale that share a key. -/
def sharedHost : Host where
  tree := (FileTree.empty.add ["p", "i18n", "default", "1.json"]
    (.file "\x7b'k': 'v'\x7d".toUTF8)).add ["p", "i18n", "default", "2.json"]
      (.file "\x7b'k': 'w'\x7d".toUTF8)
  workingFolder := []
  environment _ := none

/-- Properties that give the class a name. -/
def calling (name : String) : Bindings String String :=
  (∅ : Bindings String String).set ClassOption.className.property name

/-- What a pass over the project is answered when the class is to have this name. -/
def sharedProject (name : String) : Surroundings :=
  .steady (fun property => .ok ((calling name).get? property)) (sharedHost.loader ["p"])

/-- The run over the project with this name for the class, as far as it shows diagnostics. -/
def sharedLines (name : String) : List String :=
  (runPass sharedHost ⟨["p"], none, [], false, true⟩ (.ofString "p") ["p"] (calling name)
    Catalog.sharingFiles).diagnosticLines

/-- What is said about a refused name is on one line exactly when the name is, and what is said
about the repeated key always is. -/
theorem BrokenOnlyByQuotes.of_sharedProject {name : String} {d : Diagnostic} {line : Text}
    (h : BrokenOnlyByQuotes (sharedProject name) Catalog.sharingFiles d line)
    (htrimmed : nonBlank? (some name) = some name) :
    (d.kind = .invalidOption → (SingleLine line ↔ SingleLine (ofString name))) ∧
      (d.kind = .duplicateKey → SingleLine line) := by
  have hproperty : ∀ purpose given, (sharedProject name).property purpose = .ok given →
      given = if purpose.property = ClassOption.className.property then some name else none := by
    intro purpose given hgiven
    rw [← Except.ok.inj hgiven]
    exact Bindings.get?_set ∅ ClassOption.className.property purpose.property name
  obtain ⟨message, quoted, -, -, hquotes, hsingle⟩ := h
  rw [hsingle]
  constructor
  · intro hkind
    cases hquotes with
    | @option o given assembly raw defect hgiven hraw _ hassembly =>
      cases o with
      | className =>
        obtain rfl : given = some name := (hproperty _ _ hgiven).trans (if_pos rfl)
        obtain rfl : assembly = none := (hproperty _ _ hassembly).trans (if_neg (by decide))
        obtain rfl := Option.some.inj (htrimmed.symm.trans hraw)
        exact List.forall_mem_singleton
      | namespaceName | modifiers =>
        obtain rfl : given = none := (hproperty _ _ hgiven).trans (if_neg (by decide))
        exact absurd hraw.symm (Option.some_ne_none raw)
    | key | location | content | fault => exact DiagnosticKind.noConfusion hkind
    | @nothing kind harity =>
      obtain rfl : kind = .invalidOption := hkind
      exact absurd harity (by decide)
  · intro hkind
    have hrepeats : ∀ triple ∈ repeats (pairsInTurn (sharedProject name).file 0
        Catalog.sharingFiles), SingleLine triple.2.1 ∧ SingleLine (ofString triple.1) := by
      show ∀ triple ∈ repeats (pairsInTurn (fun _ => sharedHost.loader ["p"]) 0
        Catalog.sharingFiles), _
      decide +kernel
    cases hquotes with
    | @key path key text hmem =>
      obtain ⟨hkey, hpath⟩ := hrepeats _ hmem
      exact List.forall_mem_cons.mpr ⟨hkey, List.forall_mem_singleton.mpr hpath⟩
    | option | location | content | fault => exact DiagnosticKind.noConfusion hkind
    | @nothing kind harity =>
      obtain rfl : kind = .duplicateKey := hkind
      exact absurd harity (by decide)

/-- Neither of these names is taken for the class, and a key is repeated. -/
theorem kinds_sharedProject : ∀ name ∈ ["1", "1\n2"], nonBlank? (some name) = some name ∧
    (generateIn (sharedProject name) Catalog.sharingFiles).diagnostics.map (·.kind) =
      [.invalidOption, .duplicateKey] := by
  decide +kernel

/-- A refused name and a repeated key.  With a name of one line the run shows one line for each of
them; with a name of two lines only that about the key is still a single one. -/
theorem diagnostics_on_one_line_sharing :
    (∃ refused repeated, sharedLines "1" = [refused, repeated] ∧
      (unlines (plain [refused, repeated])).splitOn (.char '\n') =
        [ofString refused, ofString repeated, []]) ∧
    (∃ d line, d ∈ (generateIn (sharedProject "1\n2") Catalog.sharingFiles).diagnostics ∧
      d.render = .ok line ∧ ¬ SingleLine line) ∧
    ∃ refused repeated, sharedLines "1\n2" = [refused, repeated] ∧
      ¬ SingleLine (ofString refused) ∧ SingleLine (ofString repeated) := by
  have hruns := fun name =>
    (diagnostics_on_one_line (sharedProject name) Catalog.sharingFiles).2 sharedHost
      ⟨["p"], none, [], false, true⟩ (.ofString "p") ["p"] (calling name) rfl
  have hshown : ∀ name ∈ ["1", "1\n2"], ∃ refused repeated, sharedLines name = [refused, repeated] ∧
      (SingleLine (ofString refused) ↔ SingleLine (ofString name)) ∧
      SingleLine (ofString repeated) := by
    intro name hname
    obtain ⟨htrimmed, hkinds⟩ := kinds_sharedProject name hname
    obtain ⟨first, rest, hlist, hfirst, hrest⟩ := List.map_eq_cons_iff.mp hkinds
    obtain ⟨second, rfl, hsecond⟩ := List.map_eq_singleton_iff.mp hrest
    have hlines := (hruns name).1
    rw [hlist, List.forall₂_cons_left_iff] at hlines
    obtain ⟨refused, others, ⟨line, -, hbroken, hsingle⟩, hothers, hboth⟩ := hlines
    rw [List.forall₂_cons_left_iff] at hothers
    obtain ⟨repeated, none, ⟨text, -, hkept, halone⟩, hend, rfl⟩ := hothers
    obtain rfl := List.forall₂_nil_left_iff.mp hend
    exact ⟨refused, repeated, hboth,
      hsingle.trans ((hbroken.of_sharedProject htrimmed).1 hfirst),
      halone.mpr ((hkept.of_sharedProject htrimmed).2 hsecond)⟩
  have hone : "1" ∈ ["1", "1\n2"] := by simp
  have htwo : "1\n2" ∈ ["1", "1\n2"] := by simp
  have hbreaks : ¬ SingleLine (ofString "1\n2") := by decide
  refine ⟨?_, ?_, ?_⟩
  · obtain ⟨refused, repeated, hlines, hrefused, hrepeated⟩ := hshown "1" hone
    have hsplit := (hruns "1").2
    rw [show (runPass sharedHost _ _ _ (calling "1") _).diagnosticLines = _ from hlines] at hsplit
    refine ⟨refused, repeated, hlines, hsplit ?_⟩
    exact List.forall_mem_cons.mpr
      ⟨hrefused.mpr (by decide), List.forall_mem_singleton.mpr hrepeated⟩
  · obtain ⟨htrimmed, hkinds⟩ := kinds_sharedProject "1\n2" htwo
    obtain ⟨d, rest, hlist, hkind, -⟩ := List.map_eq_cons_iff.mp hkinds
    have hmem : d ∈ (generateIn (sharedProject "1\n2") Catalog.sharingFiles).diagnostics :=
      hlist ▸ List.mem_cons_self
    obtain ⟨line, hrender, hbroken⟩ :=
      (diagnostics_on_one_line (sharedProject "1\n2") Catalog.sharingFiles).1 d hmem
    have hline := (hbroken.of_sharedProject htrimmed).1 hkind
    exact ⟨d, line, hmem, hrender, fun hsingle => hbreaks (hline.mp hsingle)⟩
  · obtain ⟨refused, repeated, hlines, hrefused, hrepeated⟩ := hshown "1\n2" htwo
    exact ⟨refused, repeated, hlines, fun h => hbreaks (hrefused.mp h), hrepeated⟩

/-- A project that gives the class a name with a line end in it. -/
def brokenName : Properties := fun name =>
  .ok (if name = ClassOption.className.property then some "a\nb" else none)

/-- **A property whose value takes its message over two lines**: the value is shown as it is. -/
theorem class_name_on_two_lines :
    ∃ d line, (generate brokenName oneKeyLoader ["i18n/default.json"]).diagnostics = [d] ∧
      d.render = .ok line ∧ ¬ SingleLine line := by
  have hkinds : (generate brokenName oneKeyLoader ["i18n/default.json"]).diagnostics.map (·.kind) =
      [.invalidOption] := by
    decide +kernel
  obtain ⟨d, hreported, hkind⟩ := List.map_eq_singleton_iff.mp hkinds
  obtain ⟨line, hrender, message, quoted, -, -, hquotes, hsingle⟩ := exists_brokenOnlyByQuotes
    (s := .steady brokenName oneKeyLoader) (hreported ▸ List.mem_singleton_self d)
  refine ⟨d, line, hreported, hrender, fun hline => ?_⟩
  cases hquotes with
  | @option o given assembly raw defect hgiven hraw =>
    have hvalue : SingleLine (ofString raw) := hsingle.mp hline _ List.mem_cons_self
    cases o with
    | className =>
      obtain rfl := Except.ok.inj hgiven
      obtain rfl := Option.some.inj hraw
      exact absurd hvalue (by decide)
    | namespaceName | modifiers =>
      obtain rfl : none = given := Except.ok.inj hgiven
      exact absurd hraw.symm (Option.some_ne_none raw)
  | key | location | content | fault => exact DiagnosticKind.noConfusion hkind
  | @nothing kind harity =>
    obtain rfl : kind = .invalidOption := hkind
    exact absurd harity (by decide)

end Phrasebook
