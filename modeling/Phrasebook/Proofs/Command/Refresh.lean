import Phrasebook.Proofs.Command.Discovery
import Phrasebook.Proofs.Command.Run

/-!
# What a run looks at stays when its class is written

The class of a project may be written anywhere, also where the locale files lie.  A run makes
folders for it and writes or removes its file; what the run looked at is there as before:

* `FileTree.Refreshed` — a tree after folders were made and files of one name were changed;
* `splitExtension_hintName`, `hintName_ne_env` — the file of a class is neither a locale file nor the
  environment file;
* `loadSettings_changed`, `projectPlace_changed` — the settings and the project are as before;
* `discover_changed`, `loader_changed` — and so are the locale files and what is in them;
* `passOf_changed` — so the pass is as before.
-/

namespace Phrasebook

namespace FileTree

/-- No folder of the tree has gone, and at a place that does not end with this name there is what
was there, or a folder where nothing was. -/
structure Refreshed (name : String) (t after : FileTree) : Prop where
  folders : ∀ q, t.isFolder q = true → after.isFolder q = true
  others : ∀ q : Place, q.getLast? ≠ some name →
    after.find? q = t.find? q ∨ t.find? q = none ∧ after.find? q = some .folder

variable {name : String} {t after : FileTree} {q : Place}

theorem Refreshed.refl (name : String) (t : FileTree) : Refreshed name t t :=
  ⟨fun _ => id, fun _ _ => .inl rfl⟩

/-- A place that does not end with a name is not the place of something of this name. -/
theorem ne_concat_of_getLast? {folder : Place} (hq : q.getLast? ≠ some name) :
    q ≠ folder ++ [name] := by
  intro heq
  rw [heq, List.getLast?_concat] at hq
  exact hq rfl

/-- Files stay as they were at all other places. -/
theorem Refreshed.content?_eq (h : Refreshed name t after) (hq : q.getLast? ≠ some name) :
    after.content? q = t.content? q := by
  unfold content?
  obtain heq | ⟨hnone, hfolder⟩ := h.others q hq
  · rw [heq]
  · rw [hnone, hfolder]

theorem Refreshed.isFile_eq (h : Refreshed name t after) (hq : q.getLast? ≠ some name) :
    after.isFile q = true ↔ t.isFile q = true := by
  rw [isFile_iff_content?, isFile_iff_content?, h.content?_eq hq]

end FileTree

namespace Command

open Phrasebook.Log Phrasebook.Text

/-! ### The name of the file of a class -/

/-- The extension of the file of a class is `.cs`. -/
theorem splitExtension_hintName (o : ClassOptions) : (splitExtension o.hintName).2 = ".cs" := by
  have hname : o.hintName.toList =
      (o.className.toList ++ ".generated".toList) ++ '.' :: ['c', 's'] := by
    rw [ClassOptions.hintName, String.toList_append, List.append_assoc]
    rfl
  show String.ofList (splitExtensionChars o.hintName.toList).2 = ".cs"
  rw [hname, splitExtensionChars_append (List.append_ne_nil_of_right_ne_nil _ (by decide))
    (by decide) (by decide)]

/-- The file of a class is not the environment file. -/
theorem hintName_ne_env (o : ClassOptions) : ".env" ≠ o.hintName := by
  intro heq
  have hlength := congrArg String.length heq
  rw [ClassOptions.hintName, String.length_append, show ".generated.cs".length = 13 from rfl,
    show ".env".length = 4 from rfl] at hlength
  omega

/-! ### What a run looks at -/

variable {h : Host} {changes : List Change} {o : ClassOptions} {project : Path} {place : Place}

/-- The settings are as before. -/
theorem loadSettings_changed
    (hrefreshed : FileTree.Refreshed o.hintName h.tree (h.changed changes).tree) :
    loadSettings (h.changed changes) = loadSettings h := by
  have htext : (h.changed changes).envFileText = h.envFileText := by
    show ((h.changed changes).tree.content? (h.workingFolder ++ [".env"])).map _ = _
    rw [hrefreshed.content?_eq]
    · rfl
    · rw [List.getLast?_concat, ne_eq, Option.some.injEq]
      exact hintName_ne_env o
  rw [loadSettings, loadSettings, htext]
  rfl

theorem projectPlace_eq_ok_iff : projectPlace h project = .ok place ↔
    h.stat project = some .folder ∧ h.resolve? project = some place := by
  unfold projectPlace
  cases h.stat project with
  | none => simp
  | some node =>
    cases node with
    | folder => cases h.resolve? project <;> simp
    | file content => simp

/-- What a project is, taken apart: its path can be looked at and leads to a folder. -/
theorem isFolder_of_projectPlace (hfound : projectPlace h project = .ok place) :
    project.isLong = false ∧ h.resolve? project = some place ∧ h.tree.isFolder place = true := by
  obtain ⟨hstat, hresolve⟩ := projectPlace_eq_ok_iff.mp hfound
  rw [Host.stat, hresolve, Option.bind_some] at hstat
  cases hlong : project.isLong with
  | true =>
    rw [hlong, if_pos rfl] at hstat
    exact absurd hstat (by simp)
  | false =>
    rw [hlong, if_neg (by decide)] at hstat
    exact ⟨rfl, hresolve, FileTree.isFolder_iff.mpr hstat⟩

/-- The project is where it was. -/
theorem projectPlace_changed
    (hrefreshed : FileTree.Refreshed o.hintName h.tree (h.changed changes).tree)
    (hfound : projectPlace h project = .ok place) :
    projectPlace (h.changed changes) project = .ok place := by
  obtain ⟨hshort, hresolve, hfolder⟩ := isFolder_of_projectPlace hfound
  have hagain : (h.changed changes).resolve? project = some place :=
    FileTree.resolve?_mono hrefreshed.folders hresolve
  refine projectPlace_eq_ok_iff.mpr ⟨?_, hagain⟩
  rw [Host.stat, hshort, if_neg (by decide), hagain, Option.bind_some]
  exact FileTree.isFolder_iff.mp (hrefreshed.folders place hfolder)

/-- A candidate does not have the name of a class's file. -/
theorem Candidate.ne_hintName {folders : Place} {name : String} (hcandidate : Candidate folders name)
    (o : ClassOptions) : name ≠ o.hintName := by
  intro heq
  have hextension := hcandidate.extension
  rw [heq, splitExtension_hintName] at hextension
  exact absurd hextension (by decide)

theorem getLast?_candidate {folders : Place} {name : String} (hcandidate : Candidate folders name)
    (o : ClassOptions) : (place ++ (folders ++ [name])).getLast? ≠ some o.hintName := by
  rw [← List.append_assoc, List.getLast?_concat, ne_eq, Option.some.injEq]
  exact hcandidate.ne_hintName o

/-- The same locale files are found. -/
theorem discover_changed
    (hrefreshed : FileTree.Refreshed o.hintName h.tree (h.changed changes).tree) :
    discover (h.changed changes).tree place = discover h.tree place := by
  apply discover_congr
  intro relative hrelative
  obtain ⟨folders, name, rfl, hcandidate⟩ := isCandidate_iff.mp hrelative
  exact hrefreshed.isFile_eq (getLast?_candidate hcandidate o)

/-- What is loaded for one of them is as before. -/
theorem loader_changed (hwell : h.tree.WellFormed)
    (hrefreshed : FileTree.Refreshed o.hintName h.tree (h.changed changes).tree) :
    ∀ path ∈ discover h.tree place, (h.changed changes).loader place path = h.loader place path := by
  intro path hpath
  obtain ⟨folders, name, rfl, hfile, hcandidate⟩ := mem_discover_iff.mp hpath
  have hparts : pathParts (join "/" (folders ++ [name])) = folders ++ [name] :=
    pathParts_join fun part hpart =>
      proper_of_isFile hwell hfile part (List.mem_append_right _ hpart)
  have hcontent : (h.changed changes).tree.content?
        (place ++ pathParts (join "/" (folders ++ [name]))) =
      h.tree.content? (place ++ pathParts (join "/" (folders ++ [name]))) := by
    rw [hparts]
    exact hrefreshed.content?_eq (getLast?_candidate hcandidate o)
  rw [Host.loader, Host.loader, Loader.ofBytes, Loader.ofBytes, hcontent]

/-- **The pass is as before.** -/
theorem passOf_changed (hwell : h.tree.WellFormed)
    (hrefreshed : FileTree.Refreshed o.hintName h.tree (h.changed changes).tree)
    (properties : Bindings String String) :
    passOf (h.changed changes) place properties = passOf h place properties := by
  rw [passOf, passOf, discover_changed hrefreshed]
  exact generate_congr (loader_changed hwell hrefreshed)

end Command

end Phrasebook
