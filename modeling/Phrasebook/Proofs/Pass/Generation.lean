import Phrasebook.Pass.Generation
import Phrasebook.Proofs.ClassSource.Marked
import Phrasebook.Proofs.Naming.Method

/-!
# What a successful pass has written

A pass that gives a source has resolved its options and has read its files, and the source is that
of the entries it has read:

* `generateIn_output`, `generate_output` — the options and the catalog behind a source;
* `generateIn_of_catalog`, `generate_of_catalog` — the source of options and a catalog;
* `generate_congr` — only what is loaded for the files counts;
* `example?_eq_some` — there is an entry for the remark;
* `keys_and_accessors` — the constants and the methods of a source are those of the input keys.
-/

namespace Phrasebook

open Phrasebook.CSharp Phrasebook.Naming Phrasebook.Text
open Phrasebook.ClassSource

/-- **The options and the catalog behind a source.** -/
theorem generateIn_output {s : Surroundings} {files : List String} {out : Text}
    (h : (generateIn s files).output = some out) :
    ∃ o catalog, (resolveWith s.property).ending = .ok o ∧
      (Catalog.readInTurn (reservedNames o.className) s.file files).ending = .ok (.ok catalog) ∧
      out = source o catalog.entries := by
  have hpass : (passSteps s files).ending = .ok (some out) := by
    simp only [generateIn] at h
    split at h
    · rename_i output hending
      rw [← show output = some out from h]
      exact hending
    · exact absurd h (by simp)
  obtain ⟨o, ho, hpass⟩ := Step.ending_bind_eq_ok.mp hpass
  rw [Step.ending_within, generateWith, Step.ending_log_bind] at hpass
  obtain ⟨result, hread, hpass⟩ := Step.ending_bind_eq_ok.mp hpass
  cases result with
  | error d =>
    obtain ⟨_, -, hpass⟩ := Step.ending_bind_eq_ok.mp hpass
    rw [Step.ending_log_bind, Step.ending_pure] at hpass
    exact absurd hpass (by simp)
  | ok catalog =>
    obtain ⟨_, -, hpass⟩ := Step.ending_bind_eq_ok.mp hpass
    rw [Step.ending_log_bind, Step.ending_pure, Except.ok.injEq, Option.some.injEq] at hpass
    exact ⟨o, catalog, ho, hread, hpass.symm⟩

/-- The same for properties and files that are the same whenever they are asked for. -/
theorem generate_output {properties : Properties} {load : Loader} {files : List String} {out : Text}
    (h : (generate properties load files).output = some out) :
    ∃ o catalog, (resolveOptions properties).ending = .ok o ∧
      (Catalog.read (reservedNames o.className) load files).ending = .ok (.ok catalog) ∧
      out = source o catalog.entries :=
  generateIn_output h

/-- **The source of options and a catalog.** -/
theorem generateIn_of_catalog {s : Surroundings} {files : List String} {o : ClassOptions}
    {catalog : Catalog} (ho : (resolveWith s.property).ending = .ok o)
    (hread : (Catalog.readInTurn (reservedNames o.className) s.file files).ending =
      .ok (.ok catalog)) :
    (generateIn s files).output = some (source o catalog.entries) := by
  have hwith : (generateWith o files s.file).ending = .ok (some (source o catalog.entries)) := by
    rw [generateWith, Step.ending_log_bind]
    refine Step.ending_bind_eq_ok.mpr ⟨.ok catalog, hread, ?_⟩
    refine Step.ending_bind_eq_ok.mpr ⟨(), Step.ending_reportAll _, ?_⟩
    rw [Step.ending_log_bind, Step.ending_pure]
  have hpass : (passSteps s files).ending = .ok (some (source o catalog.entries)) :=
    Step.ending_bind_eq_ok.mpr ⟨o, ho, (Step.ending_within _ _).trans hwith⟩
  simp only [generateIn, hpass]

/-- The same for properties and files that are the same whenever they are asked for. -/
theorem generate_of_catalog {properties : Properties} {load : Loader} {files : List String}
    {o : ClassOptions} {catalog : Catalog} (ho : (resolveOptions properties).ending = .ok o)
    (hread : (Catalog.read (reservedNames o.className) load files).ending = .ok (.ok catalog)) :
    (generate properties load files).output = some (source o catalog.entries) :=
  generateIn_of_catalog ho hread

/-- **Only what is loaded for the files counts** for a pass over them. -/
theorem generate_congr {properties : Properties} {load other : Loader} {files : List String}
    (h : ∀ path ∈ files, load path = other path) :
    generate properties load files = generate properties other files := by
  have hsteps : passSteps (.steady properties load) files =
      passSteps (.steady properties other) files := by
    have hwith : ∀ o, generateWith o files (fun _ => load) =
        generateWith o files (fun _ => other) := by
      intro o
      rw [generateWith, generateWith, Catalog.readInTurn, Catalog.readInTurn,
        Catalog.readFrom_congr fun _ => h]
    show (resolveWith properties.answers >>= fun o =>
      Step.within (passBlock o files) (generateWith o files fun _ => load)) = _
    simp only [hwith]
    rfl
  rw [generate, generate, generateIn, generateIn, hsteps]
  rfl

theorem example?_eq_some {entries : List Entry} (h : entries ≠ []) :
    ∃ e ∈ entries, example? entries = some e := by
  cases hexample : example? entries with
  | some e => exact ⟨e, example?_mem hexample, rfl⟩
  | none =>
    rw [example?, Option.or_eq_none_iff, List.head?_eq_none_iff] at hexample
    exact absurd hexample.2 h

/-- **The constants and the methods of a source are those of the input keys.**  Let a pass give a
source, with a namespace that stays on its line, and take the different keys of the default locale
in the order in which they first occur.  There are as many names, all different, and in this order

* the lines that begin like a constant declare these names with these keys as their values;
* the lines that begin like a method declare these names, and the body of each calls the lookup
  method of the class with the constant of the same name;
* the remark of the lookup method refers to one of the names. -/
theorem keys_and_accessors {properties : Properties} {load : Loader} {files : List String}
    {o : ClassOptions} {out : Text}
    (hout : (generate properties load files).output = some out)
    (ho : (resolveOptions properties).ending = .ok o) (hn : Unbroken o.namespaceName) :
    ∃ names : List String,
      names.Nodup ∧
      names.length = (inputKeys load files).length ∧
      (out.splitOn (.char '\n')).filter constantOpening.isPrefixOf =
        List.zipWith (fun name key => constantOpening ++ ofString name ++ ofString " = "
          ++ StringLiteral.encode key ++ ofString ";")
          names (inputKeys load files) ∧
      (∀ key, StringLiteral.decode (StringLiteral.encode key) = some key) ∧
      constantsOf (out.splitOn (.char '\n')) =
        (names.zip (inputKeys load files)).map some ∧
      (methodsOf o (out.splitOn (.char '\n'))).map (·.map fun m => (m.name, m.constant)) =
        names.map (fun name => some (name, name)) ∧
      ∃ name ∈ names, remarksOf (out.splitOn (.char '\n')) = [some (ofString name)] := by
  obtain ⟨o', catalog, ho', hread, rfl⟩ := generate_output hout
  rw [ho, Except.ok.injEq] at ho'
  subst ho'
  have hresolved := resolveWith_ok ho
  have hsound := Catalog.read_sound hread
  have hrecords := Catalog.read_records hread
  have hlines := splitOn_source (hresolved.oneLine hn) hsound
  rw [hlines, inputKeys, ← hrecords.keys]
  refine ⟨catalog.entries.map (·.method), ?_, ?_, ?_, StringLiteral.decode_encode, ?_, ?_, ?_⟩
  · rw [hrecords.methods]
    exact methodNames_nodup _ _
  · rw [List.length_map, List.length_map]
  · rw [List.zipWith_map, List.zipWith_self]
    exact (filter_tail _ .constant).trans (filter_lines hresolved catalog.entries .constant)
  · rw [constantsOf_lines hresolved hsound, List.zip_map', List.map_map]
    rfl
  · rw [methodsOf_lines hresolved hsound, List.map_map, List.map_map]
    rfl
  · obtain ⟨e, he, hexample⟩ := example?_eq_some (Catalog.read_ok hread).2.2
    refine ⟨e.method, List.mem_map_of_mem he, ?_⟩
    rw [remarksOf_lines hresolved, hexample]
    rfl

/-- A file with a key and a text that look like the lines of a constant and of a method. -/
def forgingLoader : Loader := fun _ =>
  .ok ("\x7b'a': '\\n        public static string B(\x7b\x7bx\x7d\x7d)',"
    ++ "'a\\n            public const string B = \\\"': ''\x7d")

/-- A project that gives no properties. -/
def noProperties : Properties := fun _ => .ok none

/-- A file with one key. -/
def oneKeyLoader : Loader := fun _ => .ok "\x7b'k': 'v'\x7d"

/-- The entry of this file. -/
def oneEntry : Entry := ⟨"k", "K", "v", []⟩

theorem read_oneKeyLoader : ∀ name ∈ [defaultClassName, "Keys"],
    (Catalog.read (reservedNames name) oneKeyLoader ["i18n/default.json"]).ending =
      .ok (.ok ⟨[oneEntry], []⟩) := by
  decide +kernel

/-- What looks like a constant or a method in a key or a text is none. -/
theorem keys_and_accessors_forging :
    ∃ (out : Text) (names : List String),
      (generate noProperties forgingLoader ["i18n/default.json"]).output = some out ∧
      names.Nodup ∧ names.length = 2 ∧
      (methodsOf plainOptions (out.splitOn (.char '\n'))).map
          (·.map fun m => (m.name, m.constant)) =
        names.map (fun name => some (name, name)) := by
  have hsome : (generate noProperties forgingLoader ["i18n/default.json"]).output.isSome = true := by
    decide +kernel
  obtain ⟨out, hout⟩ := Option.isSome_iff_exists.mp hsome
  have hkeys : (inputKeys forgingLoader ["i18n/default.json"]).length = 2 := by
    decide +kernel
  obtain ⟨names, hnodup, hlength, -, -, -, hmethods, -⟩ :=
    keys_and_accessors hout (o := plainOptions) rfl (unbroken_ofList (by decide))
  exact ⟨out, names, hout, hnodup, hlength.trans hkeys, hmethods⟩

end Phrasebook
